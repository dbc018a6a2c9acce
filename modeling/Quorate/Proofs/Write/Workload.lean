import Quorate.Proofs.Store.Contents
import Quorate.Workload

/-!
What the moves of a workload do to its store and to its writes. A move either completes one call,
whose request is known beforehand, or it touches no shelf; and whatever it is, the writes go on by
hearing of completions, or not at all.
-/

namespace Quorate

open Store

namespace Store.Cluster

def refusal : Failure := .submissionRejected "simulated DHT refuses submissions"

def taking (cluster : Cluster) (call : Call) : Cluster :=
  match call with
  | .put => { cluster with puts := cluster.puts + 1 }
  | .remove => { cluster with removals := cluster.removals + 1 }

theorem submit_eq (cluster : Cluster) (call : Call) :
    cluster.submit call =
      if cluster.rejecting then .error refusal else .ok (cluster.taking call) := by
  unfold submit
  cases call <;> rfl

theorem taking_replicas (cluster : Cluster) (call : Call) :
    (cluster.taking call).replicas = cluster.replicas := by
  cases call <;> rfl

private theorem taking_factor (cluster : Cluster) (call : Call) :
    (cluster.taking call).factor = cluster.factor := by
  cases call <;> rfl

theorem Placed.taking {cluster : Cluster} (placed : cluster.Placed) (call : Call) :
    (cluster.taking call).Placed := by
  apply placed.congr _ (cluster.taking_factor call)
  unfold shelves
  rw [cluster.taking_replicas]

end Store.Cluster

/-! ### Writes -/

namespace Write

/-- A write that has a verdict makes no more calls. -/
def Final (write : Write) : Prop := ∀ verdict, write.verdict? = some verdict → write.call? = none

theorem Final.start (request : Request) (budget : UInt32) :
    Final { request := request, budget := budget } := nofun

theorem Final.receive {write : Write} (final : write.Final) (completion : Completion) :
    (write.receive completion).1.Final := by
  unfold Write.receive
  cases stage : write.stage with
  | putting =>
      have wanted : write.call? = some .put := by unfold call?; rw [stage]
      dsimp only
      unfold receivePut
      dsimp only
      split
      · exact fun _ _ => rfl
      · split
        all_goals
          intro verdict decided
          have none := final verdict decided
          rw [wanted] at none
          cases none
  | removing givingUp =>
      have wanted : write.call? = some .remove := by unfold call?; rw [stage]
      dsimp only
      unfold receiveRemoval
      dsimp only
      split
      · exact fun _ _ => rfl
      · intro verdict decided
        have none := final verdict decided
        rw [wanted] at none
        cases none
  | decided accepted => exact final
  | lost => exact final

private theorem Final.lose {write : Write} : write.lose.Final := fun _ _ => rfl

theorem receive_of_no_call {write : Write} (idle : write.call? = none)
    (completion : Completion) : (write.receive completion).1 = write := by
  unfold receive
  cases stage : write.stage with
  | putting =>
      unfold call? at idle
      rw [stage] at idle
      cases idle
  | removing givingUp =>
      unfold call? at idle
      rw [stage] at idle
      cases idle
  | decided accepted => rfl
  | lost => rfl

private theorem receive_request (write : Write) (completion : Completion) :
    (write.receive completion).1.request = write.request := by
  unfold receive
  split
  · unfold receivePut
    dsimp only
    split
    · rfl
    · split <;> rfl
  · next givingUp _ => cases givingUp <;> rfl
  · rfl
  · rfl

end Write

namespace Workload

namespace Participant

variable (participant : Participant) (cluster : Cluster)

/-- The call that is under way. -/
def due? : Option (Call × Request) :=
  if participant.underway then participant.write.call?.map (·, participant.write.request) else none

theorem due?_eq_some {call : Call} (wanted : participant.write.call? = some call)
    (underway : participant.underway = true) :
    participant.due? = some (call, participant.write.request) := by
  unfold due?
  rw [if_pos underway, wanted]
  rfl

private theorem request_of_due? {call : Call} {request : Request}
    (due : participant.due? = some (call, request)) :
    participant.write.call? = some call ∧ request = participant.write.request := by
  unfold due? at due
  split at due
  · obtain ⟨wanted, found, same⟩ := Option.map_eq_some_iff.mp due
    cases same
    exact ⟨found, rfl⟩
  · cases due

theorem underway_of_due? {entry : Call × Request} (due : participant.due? = some entry) :
    participant.underway = true := by
  unfold due? at due
  split at due
  · assumption
  · cases due

theorem advance_of_no_call (idle : participant.write.call? = none) :
    participant.advance cluster = (participant, cluster) := by
  unfold advance
  rw [idle]

theorem advance_of_underway {call : Call} (wanted : participant.write.call? = some call)
    (underway : participant.underway = true) :
    participant.advance cluster =
      (participant.receive (cluster.complete call participant.write.request).1,
        (cluster.complete call participant.write.request).2) := by
  unfold advance
  rw [wanted]
  dsimp only
  rw [if_pos underway]

def calling (call : Call) : Participant :=
  { participant with notices := participant.notices ++ [.counted (Write.counterOf call)] }

theorem advance_of_rejecting {call : Call} (wanted : participant.write.call? = some call)
    (resting : participant.underway = false) (rejecting : cluster.rejecting = true) :
    participant.advance cluster =
      ((participant.calling call).receive (.error Cluster.refusal), cluster) := by
  unfold advance
  rw [wanted]
  dsimp only
  rw [if_neg (by rw [resting]; exact Bool.false_ne_true), cluster.submit_eq, if_pos rejecting]
  rfl

theorem advance_of_accepting {call : Call} (wanted : participant.write.call? = some call)
    (resting : participant.underway = false) (accepting : cluster.rejecting = false) :
    participant.advance cluster =
      ({ participant.calling call with underway := true }, cluster.taking call) := by
  unfold advance
  rw [wanted]
  dsimp only
  rw [if_neg (by rw [resting]; exact Bool.false_ne_true), cluster.submit_eq,
    if_neg (by rw [accepting]; exact Bool.false_ne_true)]
  rfl

inductive AdvancesTo : Participant × Cluster → Prop
  | idle (none : participant.write.call? = none) : AdvancesTo (participant, cluster)
  | completed {call : Call} (wanted : participant.write.call? = some call)
      (underway : participant.underway = true) :
      AdvancesTo
        (participant.receive (cluster.complete call participant.write.request).1,
          (cluster.complete call participant.write.request).2)
  | refused {call : Call} (wanted : participant.write.call? = some call)
      (resting : participant.underway = false) (rejecting : cluster.rejecting = true) :
      AdvancesTo ((participant.calling call).receive (.error Cluster.refusal), cluster)
  | taken {call : Call} (wanted : participant.write.call? = some call)
      (resting : participant.underway = false) (accepting : cluster.rejecting = false) :
      AdvancesTo ({ participant.calling call with underway := true }, cluster.taking call)

theorem advancesTo_advance : participant.AdvancesTo cluster (participant.advance cluster) := by
  cases wanted : participant.write.call? with
  | none =>
      rw [participant.advance_of_no_call cluster wanted]
      exact .idle wanted
  | some call =>
      cases underway : participant.underway with
      | true =>
          rw [participant.advance_of_underway cluster wanted underway]
          exact .completed wanted underway
      | false =>
          cases rejecting : cluster.rejecting with
          | true =>
              rw [participant.advance_of_rejecting cluster wanted underway rejecting]
              exact .refused wanted underway rejecting
          | false =>
              rw [participant.advance_of_accepting cluster wanted underway rejecting]
              exact .taken wanted underway rejecting

theorem advance_write {kept : Write → Prop}
    (receiving : ∀ write completion, kept write → kept (write.receive completion).1)
    (holds : kept participant.write) : kept (participant.advance cluster).1.write := by
  have step := participant.advancesTo_advance cluster
  generalize participant.advance cluster = outcome at step ⊢
  cases step with
  | idle none => exact holds
  | completed wanted underway => exact receiving _ _ holds
  | refused wanted resting rejecting => exact receiving _ _ holds
  | taken wanted resting accepting => exact holds

private theorem advance_cluster :
    (∃ call request, participant.due? = some (call, request) ∧
        (participant.advance cluster).2 = (cluster.complete call request).2) ∨
      (participant.due? = none ∧ (participant.advance cluster).2.replicas = cluster.replicas ∧
        (participant.advance cluster).2.factor = cluster.factor) := by
  have resting : participant.underway = false → participant.due? = none := by
    intro still
    unfold due?
    rw [still]
    rfl
  have step := participant.advancesTo_advance cluster
  generalize participant.advance cluster = outcome at step ⊢
  cases step with
  | idle none =>
      refine .inr ⟨?_, rfl, rfl⟩
      unfold due?
      rw [none]
      exact ite_self Option.none
  | completed wanted underway =>
      exact .inl ⟨_, _, participant.due?_eq_some wanted underway, rfl⟩
  | refused wanted still rejecting => exact .inr ⟨resting still, rfl, rfl⟩
  | @taken call wanted still accepting =>
      exact .inr ⟨resting still, cluster.taking_replicas call, cluster.taking_factor call⟩

def advances (participant : Participant) (cluster : Cluster) : Nat → Participant × Cluster
  | 0 => (participant, cluster)
  | count + 1 =>
      let (participant, cluster) := participant.advance cluster
      participant.advances cluster count

theorem advances_succ (count : Nat) :
    participant.advances cluster (count + 1) =
      (participant.advance cluster).1.advances (participant.advance cluster).2 count := rfl

theorem advances_of_no_call (idle : participant.write.call? = none) (count : Nat) :
    participant.advances cluster count = (participant, cluster) := by
  induction count with
  | zero => rfl
  | succ count ih =>
      unfold advances
      rw [participant.advance_of_no_call cluster idle]
      exact ih

theorem advances_add (first count : Nat) :
    participant.advances cluster (first + count) =
      (participant.advances cluster first).1.advances (participant.advances cluster first).2
        count := by
  induction first generalizing participant cluster with
  | zero => rw [Nat.zero_add]; rfl
  | succ first ih =>
      rw [Nat.succ_add]
      exact ih _ _

end Participant

/-! ### Moves -/

variable {ι : Type}

/-- The call that the move completes, if it completes one. -/
def due? (workload : Workload ι) : Move ι → Option (Call × Request)
  | .advance index => (workload.writes index).due?
  | .complete number => workload.calls[number]?
  | _ => none

/-- The call that the move completes does not fail: the responsible peers apply it. -/
def Applies (workload : Workload ι) (move : Move ι) (call : Call) (request : Request) : Prop :=
  workload.due? move = some (call, request) ∧
    ∃ response, (workload.cluster.complete call request).1 = .ok response

variable [DecidableEq ι]

/-- Every move of the run is allowed where it is made. -/
def Along (allowed : Workload ι → Move ι → Prop) : List (Move ι) → Workload ι → Prop
  | [], _ => True
  | move :: rest, workload => allowed workload move ∧ Along allowed rest (workload.step move)

theorem Along.invariant {allowed : Workload ι → Move ι → Prop} (kept : Workload ι → Prop)
    (step : ∀ workload move, allowed workload move → kept workload → kept (workload.step move))
    (moves : List (Move ι)) (workload : Workload ι) (along : Along allowed moves workload)
    (holds : kept workload) : kept (workload.run moves) := by
  induction moves generalizing workload with
  | nil => exact holds
  | cons move rest ih => exact ih _ along.2 (step workload move along.1 holds)

private theorem run_append (first rest : List (Move ι)) (workload : Workload ι) :
    workload.run (first ++ rest) = (workload.run first).run rest :=
  List.foldl_append

theorem run_invariant (kept : Workload ι → Prop)
    (step : ∀ workload move, kept workload → kept (workload.step move)) (moves : List (Move ι))
    (workload : Workload ι) (holds : kept workload) : kept (workload.run moves) := by
  induction moves generalizing workload with
  | nil => exact holds
  | cons move rest ih => exact ih _ (step workload move holds)

/-- A workload that comes about on a new store, in any way whatever. -/
def Reachable (workload : Workload ι) : Prop :=
  ∃ (count factor : Nat) (latency : Duration) (requests : ι → Request) (budgets : ι → UInt32)
    (moves : List (Move ι)),
    workload = (start (Cluster.create count factor latency) requests budgets).run moves

section Step

variable (workload : Workload ι) (move : Move ι)

theorem setWrite_self (index : ι) (participant : Participant) :
    (workload.setWrite index participant).writes index = participant := if_pos rfl

theorem setWrite_of_ne {index other : ι} (different : other ≠ index) (participant : Participant) :
    (workload.setWrite index participant).writes other = workload.writes other :=
  if_neg different

theorem advance_self (index : ι) :
    (workload.advance index).writes index =
      ((workload.writes index).advance workload.cluster).1 := if_pos rfl

/-- A move completes the call that is due, or it touches no shelf. -/
theorem step_cluster :
    (∃ call request, workload.due? move = some (call, request) ∧
        (workload.step move).cluster = (workload.cluster.complete call request).2) ∨
      (workload.due? move = none ∧
        (workload.step move).cluster.shelves = workload.cluster.shelves ∧
        (workload.step move).cluster.factor = workload.cluster.factor) := by
  have untouched : ∀ after : Cluster, after.replicas = workload.cluster.replicas →
      after.factor = workload.cluster.factor →
        after.shelves = workload.cluster.shelves ∧ after.factor = workload.cluster.factor := by
    intro after replicas factor
    refine ⟨?_, factor⟩
    unfold Cluster.shelves
    rw [replicas]
  cases move with
  | advance index =>
      rcases (workload.writes index).advance_cluster workload.cluster with
        ⟨call, request, due, completed⟩ | ⟨resting, replicas, factor⟩
      · exact .inl ⟨call, request, due, completed⟩
      · exact .inr ⟨resting, untouched _ replicas factor⟩
  | complete number =>
      change (∃ call request, workload.calls[number]? = some (call, request) ∧
          (workload.complete number).cluster = _) ∨ (workload.calls[number]? = none ∧
        (workload.complete number).cluster.shelves = _ ∧
          (workload.complete number).cluster.factor = _)
      unfold complete
      cases found : workload.calls[number]? with
      | none => exact .inr ⟨rfl, rfl, rfl⟩
      | some entry => exact .inl ⟨entry.1, entry.2, rfl, rfl⟩
  | submit call request =>
      refine .inr ⟨rfl, ?_⟩
      change (workload.submit call request).cluster.shelves = _ ∧
        (workload.submit call request).cluster.factor = _
      unfold submit
      rw [workload.cluster.submit_eq]
      cases workload.cluster.rejecting with
      | true => exact untouched _ rfl rfl
      | false =>
          exact untouched _ (workload.cluster.taking_replicas call)
            (workload.cluster.taking_factor call)
  | behave peer behavior =>
      exact .inr ⟨rfl, workload.cluster.shelves_setBehavior peer behavior, rfl⟩
  | lose index => exact .inr ⟨rfl, untouched _ rfl rfl⟩
  | abandon number => exact .inr ⟨rfl, untouched _ rfl rfl⟩
  | rejectSubmissions on => exact .inr ⟨rfl, untouched _ rfl rfl⟩
  | failNextPuts count => exact .inr ⟨rfl, untouched _ rfl rfl⟩
  | failRemovals on => exact .inr ⟨rfl, untouched _ rfl rfl⟩

theorem step_layout :
    (workload.step move).cluster.peers = workload.cluster.peers ∧
      (workload.step move).cluster.factor = workload.cluster.factor := by
  rcases workload.step_cluster move with ⟨call, request, _, completed⟩ | ⟨_, shelves, factor⟩
  · rw [completed]
    exact ⟨workload.cluster.peers_complete call request,
      workload.cluster.factor_complete call request⟩
  · refine ⟨?_, factor⟩
    rw [Cluster.peers_eq_shelves, Cluster.peers_eq_shelves, shelves]

theorem step_everywhere {holds : Peer → Shelf → Prop}
    (erasing : ∀ peer shelf key, holds peer shelf → holds peer (shelf.erase key))
    (inserting : ∀ request, workload.Applies move .put request →
      ∀ peer shelf, peer ∈ workload.cluster.responsible request.location → holds peer shelf →
        holds peer (shelf.insert request.versionKey request.value))
    (everywhere : workload.cluster.Everywhere holds) :
    (workload.step move).cluster.Everywhere holds := by
  rcases workload.step_cluster move with ⟨call, request, due, completed⟩ | ⟨_, shelves, _⟩
  · rw [completed]
    apply everywhere.complete call request erasing
    rintro response rfl applied
    exact inserting request ⟨due, response, applied⟩
  · unfold Cluster.Everywhere
    rw [shelves]
    exact everywhere

theorem step_placed (placed : workload.cluster.Placed) : (workload.step move).cluster.Placed := by
  rcases workload.step_cluster move with ⟨call, request, _, completed⟩ | ⟨_, shelves, factor⟩
  · rw [completed]
    exact placed.complete call request
  · exact placed.congr shelves factor

theorem writes_step (index : ι) :
    (workload.step move).writes index =
      if move = .advance index then ((workload.writes index).advance workload.cluster).1
      else if move = .lose index then (workload.writes index).lose
      else workload.writes index := by
  cases move with
  | advance mover =>
      change (workload.advance mover).writes index = _
      by_cases own : index = mover
      · rw [own, if_pos rfl, workload.advance_self]
      · rw [if_neg fun same => own (Move.advance.inj same).symm, if_neg nofun]
        exact workload.setWrite_of_ne own _
  | lose mover =>
      change (workload.setWrite mover (workload.writes mover).lose).writes index = _
      rw [if_neg nofun]
      by_cases own : index = mover
      · rw [own, if_pos rfl, workload.setWrite_self]
      · rw [if_neg fun same => own (Move.lose.inj same).symm, workload.setWrite_of_ne own]
  | submit call request =>
      change (workload.submit call request).writes index = _
      unfold submit
      split <;> rfl
  | complete number =>
      change (workload.complete number).writes index = _
      unfold complete
      split <;> rfl
  | _ => rfl

theorem step_write_of_present (kept : Write → Prop)
    (receiving : ∀ write completion, kept write → kept (write.receive completion).1) (index : ι)
    (present : move ≠ .lose index) (holds : kept (workload.writes index).write) :
    kept ((workload.step move).writes index).write := by
  rw [workload.writes_step, if_neg present]
  split
  · exact (workload.writes index).advance_write workload.cluster receiving holds
  · exact holds

/-- What outlasts completions, and the loss of the task, outlasts every move. -/
theorem step_write {kept : Write → Prop}
    (receiving : ∀ write completion, kept write → kept (write.receive completion).1)
    (losing : ∀ write, kept write → kept write.lose) (index : ι)
    (holds : kept (workload.writes index).write) :
    kept ((workload.step move).writes index).write := by
  by_cases lost : move = .lose index
  · rw [workload.writes_step, if_neg (by rw [lost]; nofun), if_pos lost]
    exact losing _ holds
  · exact workload.step_write_of_present move kept receiving index lost holds

end Step

/-! ### Runs -/

section Run

variable (moves : List (Move ι)) (workload : Workload ι)

private theorem run_final (index : ι) (final : (workload.writes index).write.Final) :
    ((workload.run moves).writes index).write.Final :=
  run_invariant (fun workload => (workload.writes index).write.Final)
    (fun workload move =>
      workload.step_write move (fun _ completion final => final.receive completion)
        (fun _ _ => .lose) index)
    moves workload final

theorem run_no_call (index : ι) (idle : (workload.writes index).write.call? = none) :
    ((workload.run moves).writes index).write.call? = none :=
  run_invariant (fun workload => (workload.writes index).write.call? = none)
    (fun workload move =>
      workload.step_write move
        (fun write completion idle => by rw [Write.receive_of_no_call idle]; exact idle)
        (fun _ _ => rfl) index)
    moves workload idle

theorem run_request (index : ι) :
    ((workload.run moves).writes index).write.request =
      (workload.writes index).write.request :=
  run_invariant
    (fun after => (after.writes index).write.request = (workload.writes index).write.request)
    (fun after move =>
      after.step_write move
        (fun write completion same => (write.receive_request completion).trans same)
        (fun _ same => same) index)
    moves workload rfl

end Run

namespace Reachable

variable {workload : Workload ι}

theorem run (reachable : workload.Reachable) (moves : List (Move ι)) :
    (workload.run moves).Reachable := by
  obtain ⟨count, factor, latency, requests, budgets, earlier, rfl⟩ := reachable
  exact ⟨count, factor, latency, requests, budgets, earlier ++ moves,
    (run_append earlier moves _).symm⟩

theorem placed (reachable : workload.Reachable) : workload.cluster.Placed := by
  obtain ⟨count, factor, latency, requests, budgets, moves, rfl⟩ := reachable
  exact run_invariant (fun workload => workload.cluster.Placed) step_placed moves _
    (.create count factor latency)

theorem final (reachable : workload.Reachable) (index : ι) :
    (workload.writes index).write.Final := by
  obtain ⟨count, factor, latency, requests, budgets, moves, rfl⟩ := reachable
  exact run_final moves _ index (.start _ _)

end Reachable

/-! ### Puts of one version -/

section Version

variable {workload : Workload ι} {move : Move ι} {key : VersionKey}

/-- The move applies no put of the version, unless the write itself makes it. -/
def PutOnlyBy (index : ι) (key : VersionKey) (workload : Workload ι) (move : Move ι) : Prop :=
  ∀ request, workload.Applies move .put request → request.versionKey = key →
    move = .advance index

/-- The move applies no such call for the version, unless it is one that a write makes. -/
def OnlyByWrites (call : Call) (key : VersionKey) (workload : Workload ι) (move : Move ι) : Prop :=
  ∀ request, workload.Applies move call request → request.versionKey = key →
    ∃ index, move = .advance index

omit [DecidableEq ι] in
theorem Applies.own {index : ι} {call : Call} {request : Request}
    (applies : workload.Applies (.advance index) call request) :
    (workload.writes index).write.call? = some call ∧
      request = (workload.writes index).write.request :=
  (workload.writes index).request_of_due? applies.1

theorem Applies.cluster {call : Call} {request : Request}
    (applies : workload.Applies move call request) :
    (workload.step move).cluster = (workload.cluster.complete call request).2 := by
  rcases workload.step_cluster move with ⟨other, asked, due, completed⟩ | ⟨none, _⟩
  · rw [applies.1] at due
    cases due
    exact completed
  · rw [applies.1] at none
    cases none

theorem step_absent (unput : ∀ request, workload.Applies move .put request →
      request.versionKey ≠ key) (absent : workload.cluster.Absent key) :
    (workload.step move).cluster.Absent key := by
  apply workload.step_everywhere move _ _ absent
  · intro _peer shelf erased before
    rw [Shelf.get?_erase, before]
    exact ite_self none
  · intro request applies _peer shelf _chosen before
    rw [Shelf.get?_insert, if_neg (unput request applies).symm]
    exact before

theorem step_only {value : List UInt8} (same : ∀ request, workload.Applies move .put request →
      request.versionKey = key → request.value = value) (only : workload.cluster.Only key value) :
    (workload.step move).cluster.Only key value := by
  apply workload.step_everywhere move _ _ only
  · intro _peer shelf erased before
    rw [Shelf.get?_erase]
    split
    · exact .inl rfl
    · exact before
  · intro request applies _peer shelf _chosen before
    rw [Shelf.get?_insert]
    split
    · next named => exact .inr (congrArg some (same request applies named.symm))
    · exact before

end Version

end Workload
end Quorate
