import Quorate.Proofs.Placement
import Quorate.Proofs.Store.Frame
import Quorate.Proofs.Write.Workload

/-!
What the calls on a store leave alone, whoever makes them and whatever happens in between. A call
has two moments. At its submission it is counted, or refused without a trace; at its completion it
concerns one version and the peers responsible for it, or fails and concerns no peer.
-/

namespace Quorate.Workload

open Store

variable {ι : Type}

def submits? (workload : Workload ι) : Move ι → Option Call
  | .advance index =>
      if (workload.writes index).underway then none else (workload.writes index).write.call?
  | .submit call _ => some call
  | _ => none

/-- No call for the version is applied by the move. -/
def Spares (key : VersionKey) (workload : Workload ι) (move : Move ι) : Prop :=
  ∀ call request, workload.Applies move call request → request.versionKey ≠ key

variable [DecidableEq ι] (workload : Workload ι) (move : Move ι)

private theorem cluster_of_submits {call : Call} (submits : workload.submits? move = some call) :
    (workload.step move).cluster =
      if workload.cluster.rejecting then workload.cluster else workload.cluster.taking call := by
  cases move with
  | advance index =>
      change (if (workload.writes index).underway then none
        else (workload.writes index).write.call?) = some call at submits
      change ((workload.writes index).advance workload.cluster).2 = _
      cases underway : (workload.writes index).underway with
      | true =>
          rw [underway] at submits
          cases submits
      | false =>
          rw [underway] at submits
          have wanted : (workload.writes index).write.call? = some call := submits
          cases rejecting : workload.cluster.rejecting with
          | true =>
              rw [(workload.writes index).advance_of_rejecting _ wanted underway rejecting]
              rfl
          | false =>
              rw [(workload.writes index).advance_of_accepting _ wanted underway rejecting]
              rfl
  | submit kind request =>
      obtain rfl : kind = call := Option.some.inj submits
      change (workload.submit kind request).cluster = _
      unfold submit
      rw [workload.cluster.submit_eq]
      cases workload.cluster.rejecting <;> rfl
  | lose index => cases submits
  | complete number => cases submits
  | abandon number => cases submits
  | behave peer behavior => cases submits
  | rejectSubmissions on => cases submits
  | failNextPuts count => cases submits
  | failRemovals on => cases submits

theorem cluster_of_due {call : Call} {request : Request}
    (due : workload.due? move = some (call, request)) :
    (workload.step move).cluster = (workload.cluster.complete call request).2 := by
  rcases workload.step_cluster move with ⟨other, asked, found, completed⟩ | ⟨none, _⟩
  · rw [due] at found
    cases found
    exact completed
  · rw [due] at none
    cases none

variable {workload move} {key : VersionKey}

theorem Spares.content? (spares : Spares key workload move) (peer : Peer) :
    (workload.step move).cluster.content? peer key = workload.cluster.content? peer key := by
  rcases workload.step_cluster move with ⟨call, request, due, completed⟩ | ⟨_, shelves, _⟩
  · rw [completed]
    cases ended : (workload.cluster.complete call request).1 with
    | ok response =>
        have other := spares call request ⟨due, response, ended⟩
        exact workload.cluster.content?_complete_of_ne peer key call request other.symm
    | error failure =>
        apply Cluster.content?_congr
        unfold Cluster.shelves
        rw [workload.cluster.replicas_complete_error call request ended]
  · exact Cluster.content?_congr peer key shelves

private theorem mem_calls_step {entry : Call × Request}
    (present : entry ∈ (workload.step move).calls) :
    entry ∈ workload.calls ∨ move = .submit entry.1 entry.2 := by
  cases move with
  | submit call request =>
      change entry ∈ (workload.submit call request).calls at present
      unfold submit at present
      split at present
      · exact .inl present
      · rcases List.mem_append.mp present with before | here
        · exact .inl before
        · rw [List.mem_singleton.mp here]
          exact .inr rfl
  | complete number =>
      change entry ∈ (workload.complete number).calls at present
      unfold complete at present
      split at present
      · exact .inl present
      · exact .inl (List.mem_of_mem_eraseIdx present)
  | abandon number => exact .inl (List.mem_of_mem_eraseIdx present)
  | _ => exact .inl present

variable (workload) in
private theorem along_spares (moves : List (Move ι))
    (writes : ∀ index, (workload.writes index).write.request.versionKey ≠ key)
    (calls : ∀ entry, entry ∈ workload.calls → entry.2.versionKey ≠ key)
    (submissions : ∀ call request, .submit call request ∈ moves → request.versionKey ≠ key) :
    Along (Spares key) moves workload := by
  induction moves generalizing workload with
  | nil => trivial
  | cons move rest ih =>
      constructor
      · intro call request applies
        cases move with
        | advance index =>
            rw [applies.own.2]
            exact writes index
        | complete number => exact calls _ (List.mem_of_getElem? applies.1)
        | _ => cases applies.1
      · apply ih
        · intro index
          have same : ((workload.step move).writes index).write.request = _ :=
            run_request [move] workload index
          rw [same]
          exact writes index
        · intro entry present
          rcases mem_calls_step present with before | rfl
          · exact calls entry before
          · exact submissions _ _ List.mem_cons_self
        · intro call request present
          exact submissions call request (List.mem_cons_of_mem move present)

/-- A submission is counted, or refused without a trace. A completion touches no other version and
no peer that is not responsible, and if the call fails, then nothing but the number of puts that are
still to fail. So no peer's content for a version ever changes but by calls for that version. -/
theorem run_frame (workload : Workload ι) :
    (∀ move call, workload.submits? move = some call →
      (∀ failure, workload.cluster.submit call = .error failure →
        (workload.step move).cluster = workload.cluster) ∧
      ∀ taken, workload.cluster.submit call = .ok taken →
        (workload.step move).cluster = taken ∧ taken = workload.cluster.taking call) ∧
      (∀ move call request, workload.due? move = some (call, request) →
        let before := workload.cluster
        let after := (workload.step move).cluster
        (∀ peer key, key ≠ request.versionKey →
          after.content? peer key = before.content? peer key) ∧
        (∀ peer, peer ∉ before.responsible request.location →
          after.replica? peer = before.replica? peer) ∧
        ∀ failure, (before.complete call request).1 = .error failure →
          match call with
          | .put => 0 < before.failingPuts ∧
              after = { before with failingPuts := before.failingPuts - 1 }
          | .remove => after = before) ∧
      ∀ key moves, Along (Spares key) moves workload → ∀ peer,
        (workload.run moves).cluster.content? peer key = workload.cluster.content? peer key := by
  refine ⟨?_, ?_, ?_⟩
  · intro move call submits
    rw [workload.cluster_of_submits move submits, workload.cluster.submit_eq]
    cases workload.cluster.rejecting with
    | true => exact ⟨fun _ _ => rfl, nofun⟩
    | false => exact ⟨nofun, fun taken same => ⟨Except.ok.inj same, (Except.ok.inj same).symm⟩⟩
  · intro move call request due before after
    have completed : after = (before.complete call request).2 := workload.cluster_of_due move due
    rw [completed]
    refine ⟨?_, ?_, ?_⟩
    · intro peer key other
      exact before.content?_complete_of_ne peer key call request other
    · intro peer other
      exact before.replica?_complete_of_not_mem peer call request other
    · intro failure failed
      cases call with
      | put => exact before.complete_put_of_error request failed
      | remove => exact before.complete_remove_of_error request failed
  · intro key moves along peer
    exact Along.invariant
      (fun after => after.cluster.content? peer key = workload.cluster.content? peer key)
      (fun after move spares same => (spares.content? peer).trans same) moves workload along rfl

/-- Two peers hold a version. The second one, which alone is responsible for the location, is about
to deny a put, and the next put fails outright. -/
def holdingPair : Cluster :=
  { replicas :=
      [{ peer := ⟨"peer-1"⟩, shelf := ⟨[(⟨"loc", "kept", 0⟩, [1])]⟩ },
        { peer := ⟨"peer-2"⟩, behavior := .denyTimes 1, shelf := ⟨[(⟨"loc", "kept", 0⟩, [2])]⟩ }]
    distinct := by decide
    factor := 1
    failingPuts := 1 }

private theorem responsible_holdingPair : holdingPair.responsible "loc" = [⟨"peer-2"⟩] := by
  have apart : Placement.Apart (Placement.weight "loc") holdingPair.peers := by
    unfold Placement.Apart
    decide +kernel
  have ranking : Placement.rankBy (Placement.weight "loc") holdingPair.peers =
      [⟨"peer-2"⟩, ⟨"peer-1"⟩] :=
    apart.rankBy_eq (by decide +kernel) (by decide +kernel)
  unfold Cluster.responsible Placement.select Placement.selectBy
  rw [ranking]
  rfl

/-- A write of another version has its first put under way. -/
theorem run_frame_holdingPair :
    let request : Request := { location := "loc", content := "content" }
    let kept : VersionKey := ⟨"loc", "kept", 0⟩
    let before : Workload Unit :=
      (start holdingPair (fun _ => request) fun _ => 1).run [.advance ()]
    let refusing := before.step (.rejectSubmissions true)
    let failed := (before.step (.advance ())).cluster
    let later : List (Move Unit) :=
      List.replicate 8 (.advance ()) ++ [.submit .remove request, .complete 0]
    refusing.submits? (.submit .remove request) = some .remove ∧
      (refusing.step (.submit .remove request)).cluster = refusing.cluster ∧
      before.due? (.advance ()) = some (.put, request) ∧
      failed = { before.cluster with failingPuts := 0 } ∧
      failed.replica? ⟨"peer-1"⟩ = holdingPair.replica? ⟨"peer-1"⟩ ∧
      Along (Spares kept) later before ∧
      (before.run later).cluster.content? ⟨"peer-2"⟩ kept = some [2] := by
  intro request kept before refusing failed later
  have submits : refusing.submits? (.submit .remove request) = some .remove := rfl
  have refused : refusing.cluster.submit .remove = .error Cluster.refusal := rfl
  have due : before.due? (.advance ()) = some (.put, request) := by decide +kernel
  obtain ⟨_, completing, sparing⟩ := run_frame before
  obtain ⟨_, others, failing⟩ := completing (.advance ()) .put request due
  have elsewhere : (⟨"peer-1"⟩ : Peer) ∉ before.cluster.responsible request.location := by
    have same : before.cluster.responsible request.location = holdingPair.responsible "loc" := rfl
    rw [same, responsible_holdingPair]
    decide
  have along : Along (Spares kept) later before := by
    apply before.along_spares later
    · decide +kernel
    · decide +kernel
    · intro call asked present
      have among := (List.mem_append.mp present).resolve_left fun own => by
        cases List.eq_of_mem_replicate own
      cases (List.mem_pair.mp among).resolve_right nofun
      decide
  refine ⟨submits, ?_, due, (failing _ rfl).2, others _ elsewhere, along, ?_⟩
  · exact ((run_frame refusing).1 _ _ submits).1 _ refused
  · rw [sparing kept later along]
    decide +kernel

end Quorate.Workload
