import Mathlib.Logic.Function.Iterate
import Quorate.Proofs.Store.Answers
import Quorate.Proofs.Store.Faults
import Quorate.Proofs.Write.Frame

/-!
Faults that are given by number: a peer that denies its next puts, and a store that fails its next
puts. Each of the two counts what it is about and nothing else, whoever makes the calls and in
whatever order they are completed, so exactly the first ones go wrong.
-/

namespace Quorate

open Store

namespace Store

private theorem Behavior.iterate_map_next (behavior : Option Behavior) (puts : Nat) :
    (Option.map Behavior.next)^[puts] behavior = behavior.map (Behavior.after · puts) := by
  induction puts with
  | zero => exact Option.map_id'.symm
  | succ puts ih =>
      rw [Function.iterate_succ_apply', ih, Option.map_map]
      rfl

private theorem Behavior.status?_after_denyTimes (count puts : Nat) :
    ((denyTimes count).after puts).status? =
      some (if puts < count then .failed else .ok) := by
  rw [after_denyTimes]
  by_cases early : puts < count
  · obtain ⟨left, leftIs⟩ : ∃ left, count - puts = left + 1 := ⟨count - puts - 1, by omega⟩
    rw [if_pos (Nat.le_of_lt early), if_pos early, leftIs]
    rfl
  · rw [if_neg early]
    by_cases last : puts ≤ count
    · have none : count - puts = 0 := by omega
      rw [if_pos last, none]
      rfl
    · rw [if_neg last]
      rfl

namespace Cluster

variable {cluster : Cluster} {peer : Peer} {request : Request} {response : Response}

private theorem exists_replica_of_responsible {location : String}
    (chosen : peer ∈ cluster.responsible location) :
    ∃ replica, cluster.replica? peer = some replica := by
  obtain ⟨replica, present, rfl⟩ := List.mem_map.mp (cluster.responsible_subset location chosen)
  exact ⟨replica, replica?_of_mem present⟩

private theorem mem_acks_iff_of_status {status : Status}
    (completed : (cluster.complete .put request).1 = .ok response)
    (chosen : peer ∈ cluster.responsible request.location)
    (answer : (cluster.behavior? peer).bind Behavior.status? = some status) (ack : Ack) :
    ack ∈ response.acks ∧ ack.peer = peer ↔ ack = .withStatus peer request.versionKey status := by
  obtain ⟨replica, found⟩ := exists_replica_of_responsible chosen
  have gives : replica.behavior.status? = some status := by
    rw [behavior?_of_replica? found] at answer
    exact answer
  have given : replica.ack request .put = .withStatus peer request.versionKey status := by
    change Ack.mk replica.peer
      (replica.behavior.status?.map fun status => [(request.versionKey, status)]) = _
    rw [gives, peer_of_replica? peer found]
    rfl
  constructor
  · rintro ⟨present, rfl⟩
    obtain ⟨other, located, _, _, same⟩ := exists_replica_of_ack completed present
    obtain rfl : other = replica := Option.some.inj (located.symm.trans found)
    exact same.trans given
  · rintro rfl
    refine ⟨?_, rfl⟩
    rw [acks_of_complete completed, ← given]
    apply List.mem_map_of_mem (f := (Replica.ack · request Call.put))
    rw [List.mem_filter]
    refine ⟨List.mem_of_find?_eq_some found, ?_⟩
    have online : replica.behavior ≠ .offline := by
      intro absent
      rw [absent] at gives
      cases gives
    unfold answers
    rw [peer_of_replica? peer found, decide_eq_true chosen, decide_eq_true online]
    rfl

private theorem content?_of_status {status : Status}
    (completed : (cluster.complete .put request).1 = .ok response)
    (chosen : peer ∈ cluster.responsible request.location)
    (answer : (cluster.behavior? peer).bind Behavior.status? = some status) (key : VersionKey) :
    (cluster.complete .put request).2.content? peer key =
      if status = .ok ∧ key = request.versionKey then some request.value
      else cluster.content? peer key := by
  obtain ⟨replica, found⟩ := exists_replica_of_responsible chosen
  have gives : replica.behavior.status? = some status := by
    rw [behavior?_of_replica? found] at answer
    exact answer
  unfold content?
  rw [cluster.replica?_complete_ok peer .put request completed, if_pos chosen, found]
  change (replica.put request).2.shelf.get? key = _
  rw [replica.put_shelf, gives]
  by_cases stored : status = .ok
  · rw [if_pos (congrArg some stored), Shelf.get?_insert]
    by_cases named : key = request.versionKey
    · rw [if_pos named, if_pos ⟨stored, named⟩]
    · rw [if_neg named, if_neg fun both => named both.2]
      rfl
  · rw [if_neg fun same => stored (Option.some.inj same), if_neg fun both => stored both.1]
    rfl

variable (cluster peer request)

private theorem behavior?_complete (call : Call) :
    (cluster.complete call request).2.behavior? peer =
      if call = .put ∧ cluster.failingPuts = 0 ∧ peer ∈ cluster.responsible request.location
      then (cluster.behavior? peer).map Behavior.next else cluster.behavior? peer := by
  cases call with
  | remove =>
      rw [if_neg fun all => nomatch all.1]
      exact cluster.behavior?_congr (cluster.profile_completeRemoval request) peer
  | put =>
      by_cases sound : cluster.failingPuts = 0
      · obtain ⟨response, completed⟩ :
            ∃ response, (cluster.complete .put request).1 = .ok response := by
          change ∃ response, (cluster.completePut request).1 = .ok response
          unfold completePut
          rw [sound]
          exact ⟨_, rfl⟩
        unfold behavior?
        rw [cluster.replica?_complete_ok peer .put request completed]
        by_cases chosen : peer ∈ cluster.responsible request.location
        · rw [if_pos chosen, if_pos ⟨rfl, sound, chosen⟩, Option.map_map, Option.map_map]
          congr 1
          funext replica
          exact replica.put_behavior request
        · rw [if_neg chosen, if_neg fun all => chosen all.2.2]
      · rw [if_neg fun all => sound all.2.1]
        have kept := cluster.profile_completePut request
        rw [if_neg sound] at kept
        exact cluster.behavior?_congr kept peer

private theorem behavior?_setBehavior (other : Peer) (behavior : Behavior) :
    (cluster.setBehavior other behavior).behavior? peer =
      (cluster.behavior? peer).map fun former => if peer = other then behavior else former := by
  rw [behavior?_eq_profile, behavior?_eq_profile, profile_setBehavior, List.find?_map,
    Option.map_map, Option.map_map]
  cases found : cluster.profile.find? fun entry => entry.1 = peer with
  | none => exact congrArg (Option.map _) found
  | some entry =>
      have named := List.find?_some found
      rw [decide_eq_true_iff] at named
      refine (congrArg (Option.map _) found).trans ?_
      rw [← named]
      rfl

private theorem failingPuts_complete (call : Call) :
    (cluster.complete call request).2.failingPuts =
      if call = .put then cluster.failingPuts - 1 else cluster.failingPuts := by
  cases call with
  | put => exact (cluster.completePut_settings request).2.2.1
  | remove => exact (cluster.completeRemoval_settings request).2.2.1

private theorem complete_put_cases :
    if 0 < cluster.failingPuts then
      (cluster.complete .put request).1 =
        .error (.futureFailed ("simulated put failure for " ++ request.versionKey.text))
    else ∃ response, (cluster.complete .put request).1 = .ok response := by
  change if 0 < cluster.failingPuts then (cluster.completePut request).1 = _
    else ∃ response, (cluster.completePut request).1 = .ok response
  unfold completePut
  cases cluster.failingPuts with
  | zero => exact ⟨_, rfl⟩
  | succ left => rfl

end Cluster
end Store

namespace Workload

variable {ι : Type} (workload : Workload ι)

/-! ### Moves -/

inductive Alters : Move ι → Cluster → Prop
  | completed {move : Move ι} {call : Call} {request : Request}
      (due : workload.due? move = some (call, request)) :
      Alters move (workload.cluster.complete call request).2
  | taken {move : Move ι} (resting : workload.due? move = none) (call : Call) :
      Alters move (workload.cluster.taking call)
  | untouched {move : Move ι} (resting : workload.due? move = none) :
      Alters move workload.cluster
  | behaved (peer : Peer) (behavior : Behavior) :
      Alters (.behave peer behavior) (workload.cluster.setBehavior peer behavior)
  | rejecting (on : Bool) :
      Alters (.rejectSubmissions on) { workload.cluster with rejecting := on }
  | failingPuts (count : Nat) :
      Alters (.failNextPuts count) { workload.cluster with failingPuts := count }
  | failingRemovals (on : Bool) :
      Alters (.failRemovals on) { workload.cluster with failingRemovals := on }

def CompletesPut (move : Move ι) : Prop := ∃ request, workload.due? move = some (.put, request)

/-- The move completes a put that does not fail and for which the peer is responsible. -/
def AppliesPutTo (peer : Peer) (move : Move ι) : Prop :=
  ∃ request, workload.Applies move .put request ∧
    peer ∈ workload.cluster.responsible request.location

private theorem appliesPutTo_iff_of_due {move : Move ι} {request : Request}
    (due : workload.due? move = some (.put, request)) (peer : Peer) :
    workload.AppliesPutTo peer move ↔
      workload.cluster.failingPuts = 0 ∧ peer ∈ workload.cluster.responsible request.location := by
  have outcome := workload.cluster.complete_put_cases request
  constructor
  · rintro ⟨asked, ⟨same, response, completed⟩, chosen⟩
    obtain rfl : request = asked := congrArg Prod.snd (Option.some.inj (due.symm.trans same))
    refine ⟨Nat.eq_zero_of_not_pos ?_, chosen⟩
    intro failing
    rw [if_pos failing, completed] at outcome
    cases outcome
  · rintro ⟨sound, chosen⟩
    rw [if_neg (by rw [sound]; exact Nat.lt_irrefl 0)] at outcome
    exact ⟨request, ⟨due, outcome⟩, chosen⟩

private theorem completesPut_iff_of_due {move : Move ι} {call : Call} {request : Request}
    (due : workload.due? move = some (call, request)) :
    workload.CompletesPut move ↔ call = .put := by
  constructor
  · rintro ⟨asked, same⟩
    exact congrArg Prod.fst (Option.some.inj (due.symm.trans same))
  · rintro rfl
    exact ⟨request, due⟩

private theorem not_completesPut {move : Move ι} (resting : workload.due? move = none) :
    ¬workload.CompletesPut move := by
  rintro ⟨request, due⟩
  rw [resting] at due
  cases due

variable {workload} in
private theorem AppliesPutTo.completesPut {peer : Peer} {move : Move ι}
    (applies : workload.AppliesPutTo peer move) : workload.CompletesPut move := by
  obtain ⟨request, applied, _⟩ := applies
  exact ⟨request, applied.1⟩

instance (move : Move ι) : Decidable (workload.CompletesPut move) :=
  match due : workload.due? move with
  | some (_, _) => decidable_of_iff _ (workload.completesPut_iff_of_due due).symm
  | none => isFalse (workload.not_completesPut due)

instance (peer : Peer) (move : Move ι) : Decidable (workload.AppliesPutTo peer move) :=
  match due : workload.due? move with
  | some (.put, _) => decidable_of_iff _ (workload.appliesPutTo_iff_of_due due peer).symm
  | some (.remove, _) =>
      isFalse fun applies =>
        nomatch (workload.completesPut_iff_of_due due).mp applies.completesPut
  | none => isFalse fun applies => workload.not_completesPut due applies.completesPut

variable [DecidableEq ι]

private theorem alters_step (move : Move ι) :
    workload.Alters move (workload.step move).cluster := by
  cases move with
  | advance index =>
      have step := (workload.writes index).advancesTo_advance workload.cluster
      change workload.Alters _ ((workload.writes index).advance workload.cluster).2
      generalize (workload.writes index).advance workload.cluster = outcome at step ⊢
      have resting (still : (workload.writes index).underway = false) :
          workload.due? (.advance index) = none := by
        change (workload.writes index).due? = none
        unfold Participant.due?
        rw [still]
        rfl
      cases step with
      | idle none =>
          apply Alters.untouched
          change (workload.writes index).due? = Option.none
          unfold Participant.due?
          rw [none]
          exact ite_self Option.none
      | completed wanted underway =>
          exact .completed ((workload.writes index).due?_eq_some wanted underway)
      | refused wanted still rejecting => exact .untouched (resting still)
      | @taken call wanted still accepting => exact .taken (resting still) call
  | submit call request =>
      change workload.Alters _ (workload.submit call request).cluster
      unfold submit
      rw [workload.cluster.submit_eq]
      cases workload.cluster.rejecting with
      | true => exact .untouched rfl
      | false => exact .taken rfl call
  | complete number =>
      change workload.Alters _ (workload.complete number).cluster
      unfold complete
      cases found : workload.calls[number]? with
      | none => exact .untouched found
      | some entry => exact .completed found
  | lose index => exact .untouched rfl
  | abandon number => exact .untouched rfl
  | behave peer behavior => exact .behaved peer behavior
  | rejectSubmissions on => exact .rejecting on
  | failNextPuts count => exact .failingPuts count
  | failRemovals on => exact .failingRemovals on

section Step

variable {workload} {move : Move ι}

private theorem behavior?_step {peer : Peer} (kept : ∀ behavior, move ≠ .behave peer behavior) :
    (workload.step move).cluster.behavior? peer =
      if workload.AppliesPutTo peer move then
        (workload.cluster.behavior? peer).map Behavior.next
      else workload.cluster.behavior? peer := by
  have spared (resting : workload.due? move = none) : ¬workload.AppliesPutTo peer move :=
    fun applies => workload.not_completesPut resting applies.completesPut
  have altered := workload.alters_step move
  generalize (workload.step move).cluster = after at altered ⊢
  cases altered with
  | @completed move call request due =>
      rw [workload.cluster.behavior?_complete]
      apply ite_congr _ (fun _ => rfl) fun _ => rfl
      cases call with
      | put => rw [workload.appliesPutTo_iff_of_due due, and_iff_right rfl]
      | remove =>
          rw [eq_iff_iff]
          refine iff_of_false (fun all => nomatch all.1) fun applies => ?_
          exact nomatch (workload.completesPut_iff_of_due due).mp applies.completesPut
  | taken resting call =>
      rw [if_neg (spared resting)]
      unfold Cluster.behavior? Cluster.replica?
      rw [workload.cluster.taking_replicas]
  | untouched resting => rw [if_neg (spared resting)]
  | behaved other behavior =>
      rw [if_neg (spared rfl), workload.cluster.behavior?_setBehavior]
      have different : peer ≠ other := fun same => kept behavior (same ▸ rfl)
      simp only [if_neg different, Option.map_id']
  | rejecting on => exact (if_neg (spared rfl)).symm
  | failingPuts count => exact (if_neg (spared rfl)).symm
  | failingRemovals on => exact (if_neg (spared rfl)).symm

/-- Every put that is completed leaves one put fewer to fail, unless somebody sets the number. -/
theorem failingPuts_step (kept : ∀ count, move ≠ .failNextPuts count) :
    (workload.step move).cluster.failingPuts =
      if workload.CompletesPut move then workload.cluster.failingPuts.pred
      else workload.cluster.failingPuts := by
  have altered := workload.alters_step move
  generalize (workload.step move).cluster = after at altered ⊢
  cases altered with
  | @completed move call request due =>
      rw [workload.cluster.failingPuts_complete]
      exact ite_congr (propext (workload.completesPut_iff_of_due due).symm) (fun _ => rfl)
        fun _ => rfl
  | taken resting call =>
      rw [if_neg (workload.not_completesPut resting)]
      cases call <;> rfl
  | untouched resting => rw [if_neg (workload.not_completesPut resting)]
  | failingPuts count => exact absurd rfl (kept count)
  | behaved peer behavior => exact (if_neg (workload.not_completesPut rfl)).symm
  | rejecting on => exact (if_neg (workload.not_completesPut rfl)).symm
  | failingRemovals on => exact (if_neg (workload.not_completesPut rfl)).symm

end Step

/-! ### Runs -/

section Run

variable (event : Workload ι → Move ι → Prop) [∀ workload move, Decidable (event workload move)]

def occurrences : List (Move ι) → Workload ι → Nat
  | [], _ => 0
  | move :: rest, workload =>
      (if event workload move then 1 else 0) + occurrences rest (workload.step move)

/-- What changes by every event, and by nothing else that the moves are allowed to do, has changed
as often as there were events. -/
theorem run_eq_iterate {α : Type} (view : Workload ι → α) (next : α → α) (allowed : Move ι → Prop)
    (step : ∀ workload move, allowed move → view (workload.step move) =
      if event workload move then next (view workload) else view workload)
    (moves : List (Move ι)) (workload : Workload ι) (all : ∀ move, move ∈ moves → allowed move) :
    view (workload.run moves) = next^[occurrences event moves workload] (view workload) := by
  induction moves generalizing workload with
  | nil => rfl
  | cons move rest ih =>
      have later := ih (workload.step move) fun other present =>
        all other (List.mem_cons_of_mem move present)
      change view ((workload.step move).run rest) =
        next^[(if event workload move then 1 else 0) + _] (view workload)
      rw [later, step workload move (all move List.mem_cons_self)]
      by_cases happens : event workload move
      · rw [if_pos happens, if_pos happens, Nat.add_comm, Function.iterate_add_apply]
        rfl
      · rw [if_neg happens, if_neg happens, Nat.zero_add]

end Run

def putsAppliedTo (peer : Peer) (moves : List (Move ι)) (workload : Workload ι) : Nat :=
  occurrences (fun workload move => workload.AppliesPutTo peer move) moves workload

/-- How many puts of the run are completed, with or without success. -/
def putsCompleted (moves : List (Move ι)) (workload : Workload ι) : Nat :=
  occurrences (fun workload move => workload.CompletesPut move) moves workload

private theorem behavior?_run (peer : Peer) (moves : List (Move ι)) (workload : Workload ι)
    (kept : ∀ behavior, .behave peer behavior ∉ moves) :
    (workload.run moves).cluster.behavior? peer =
      (workload.cluster.behavior? peer).map
        (Behavior.after · (putsAppliedTo peer moves workload)) := by
  rw [← Behavior.iterate_map_next]
  exact run_eq_iterate (fun workload move => workload.AppliesPutTo peer move)
    (fun workload => workload.cluster.behavior? peer) (Option.map Behavior.next)
    (fun move => ∀ behavior, move ≠ .behave peer behavior)
    (fun workload move untouched => behavior?_step untouched) moves workload
    fun move present behavior same => kept behavior (same ▸ present)

private theorem failingPuts_run (moves : List (Move ι)) (workload : Workload ι)
    (kept : ∀ count, .failNextPuts count ∉ moves) :
    (workload.run moves).cluster.failingPuts =
      workload.cluster.failingPuts - putsCompleted moves workload := by
  rw [← Nat.pred_iterate]
  exact run_eq_iterate (fun workload move => workload.CompletesPut move)
    (fun workload => workload.cluster.failingPuts) Nat.pred
    (fun move => ∀ count, move ≠ .failNextPuts count)
    (fun workload move untouched => failingPuts_step untouched) moves workload
    fun move present count same => kept count (same ▸ present)

private theorem status?_of_told {before : Workload ι} {peer : Peer} {count : Nat}
    {moves : List (Move ι)} {location : String} (kept : ∀ behavior, .behave peer behavior ∉ moves)
    (chosen : peer ∈ ((before.step (.behave peer (.denyTimes count))).run moves).cluster.responsible
      location) :
    (((before.step (.behave peer (.denyTimes count))).run moves).cluster.behavior? peer).bind
        Behavior.status? =
      some (if putsAppliedTo peer moves (before.step (.behave peer (.denyTimes count))) < count
        then .failed else .ok) := by
  have told : (before.step (.behave peer (.denyTimes count))).cluster.behavior? peer = _ :=
    before.cluster.behavior?_setBehavior peer peer (.denyTimes count)
  obtain ⟨replica, found⟩ := Cluster.exists_replica_of_responsible chosen
  have behaves := Cluster.behavior?_of_replica? found
  rw [behavior?_run peer moves _ kept, told, Option.map_map] at behaves ⊢
  obtain ⟨former, known, _⟩ := Option.map_eq_some_iff.mp behaves
  rw [known]
  simp only [Option.map_some, Option.bind_some, Function.comp_apply, if_true]
  exact Behavior.status?_after_denyTimes count _

/-- Whoever makes the calls and in whatever order they end, a peer that is told to deny so many puts
denies exactly the first so many that are applied to it, without storing them, and stores all later
ones with a good answer; no removal, refused submission, failed put or put for the location of
others takes a denial away. Likewise a store that is told to fail so many puts fails exactly the
first so many that are completed, whatever they are about. -/
theorem run_countdowns (before : Workload ι) :
    (∀ peer count moves, (∀ behavior, .behave peer behavior ∉ moves) →
      let armed := before.step (.behave peer (.denyTimes count))
      let after := armed.run moves
      let applied := putsAppliedTo peer moves armed
      ∀ move,
        (∀ request response, after.due? move = some (.put, request) →
          (after.cluster.complete .put request).1 = .ok response →
          peer ∈ after.cluster.responsible request.location →
            (∀ ack, ack ∈ response.acks ∧ ack.peer = peer ↔
              ack = .withStatus peer request.versionKey
                (if applied < count then .failed else .ok)) ∧
            ∀ key, (after.step move).cluster.content? peer key =
              if count ≤ applied ∧ key = request.versionKey then some request.value
              else after.cluster.content? peer key) ∧
        ((∀ behavior, move ≠ .behave peer behavior) → ¬after.AppliesPutTo peer move →
          (after.step move).cluster.behavior? peer = after.cluster.behavior? peer)) ∧
      ∀ count moves, (∀ other, .failNextPuts other ∉ moves) →
        let armed := before.step (.failNextPuts count)
        let after := armed.run moves
        ∀ move request, after.due? move = some (.put, request) →
          if putsCompleted moves armed < count then
            (after.cluster.complete .put request).1 =
              .error (.futureFailed ("simulated put failure for " ++ request.versionKey.text))
          else ∃ response, (after.cluster.complete .put request).1 = .ok response := by
  constructor
  · intro peer count moves kept armed after applied move
    constructor
    · intro request response due completed chosen
      have answer := status?_of_told kept chosen
      refine ⟨Cluster.mem_acks_iff_of_status completed chosen answer, ?_⟩
      intro key
      rw [after.cluster_of_due move due, Cluster.content?_of_status completed chosen answer]
      by_cases early : applied < count
      · rw [if_pos early, if_neg nofun, if_neg fun both => Nat.not_le_of_lt early both.1]
      · rw [if_neg early]
        simp only [Nat.le_of_not_lt early, true_and]
    · intro untouched spared
      rw [behavior?_step untouched, if_neg spared]
  · intro count moves kept armed after move request due
    have left : after.cluster.failingPuts = count - putsCompleted moves armed :=
      failingPuts_run moves armed kept
    have outcome := after.cluster.complete_put_cases request
    rw [left] at outcome
    simp only [Nat.sub_pos_iff_lt] at outcome
    exact outcome

/-- The first put of a write fails outright and is taken back. In between a removal of somebody else
is completed, and the store refuses a call. -/
def mishap : List (Move Unit) :=
  [.failNextPuts 1, .submit .remove { location := "loc", content := "content" }, .advance (),
    .complete 0, .advance (), .rejectSubmissions true,
    .submit .put { location := "loc", content := "content" }, .rejectSubmissions false,
    .advance (), .advance (), .advance ()]

/-- The only peer is to deny one put. It denies the second put of the write and stores the third;
the removal of somebody else takes nothing away. -/
theorem run_countdowns_mishap :
    let request : Request := { location := "loc", content := "content", value := [7] }
    let key := request.versionKey
    let peer : Peer := ⟨"peer-1"⟩
    let before : Workload Unit := start (Cluster.create 1 1 ⟨0⟩) (fun _ => request) fun _ => 3
    let armed := before.step (.behave peer (.denyTimes 1))
    let sparing := armed.run (mishap.take 3)
    let denying := armed.run mishap
    let later := mishap ++ List.replicate 4 (.advance ())
    let storing := armed.run later
    let answer (status : Status) : Response := ⟨[.withStatus peer key status]⟩
    let failing := (before.step (.failNextPuts 1)).run [.advance ()]
    (denying.due? (.advance ()) = some (.put, request) ∧
      (denying.cluster.complete .put request).1 = .ok (answer .failed) ∧
      (∀ ack, ack ∈ (answer .failed).acks ∧ ack.peer = peer ↔
        ack = .withStatus peer key .failed) ∧
      (denying.step (.advance ())).cluster.content? peer key = none) ∧
    (storing.due? (.advance ()) = some (.put, request) ∧
      (storing.cluster.complete .put request).1 = .ok (answer .ok) ∧
      (∀ ack, ack ∈ (answer .ok).acks ∧ ack.peer = peer ↔ ack = .withStatus peer key .ok) ∧
      (storing.step (.advance ())).cluster.content? peer key = some [7]) ∧
    (¬sparing.AppliesPutTo peer (.complete 0) ∧
      (sparing.step (.complete 0)).cluster.behavior? peer = sparing.cluster.behavior? peer) ∧
    failing.due? (.advance ()) = some (.put, request) ∧
      (failing.cluster.complete .put request).1 =
        .error (.futureFailed ("simulated put failure for " ++ key.text)) := by
  intro request key peer before armed sparing denying later storing answer failing
  have due : denying.due? (.advance ()) = some (.put, request) := by decide +kernel
  have dueLater : storing.due? (.advance ()) = some (.put, request) := by decide +kernel
  have denied : (denying.cluster.complete .put request).1 = .ok (answer .failed) := by
    decide +kernel
  have stored : (storing.cluster.complete .put request).1 = .ok (answer .ok) := by
    decide +kernel
  have none : putsAppliedTo peer mishap armed = 0 := by decide +kernel
  have one : putsAppliedTo peer later armed = 1 := by decide +kernel
  have untried : putsCompleted [.advance ()] (before.step (.failNextPuts 1)) = 0 := by
    decide +kernel
  have spared : ¬sparing.AppliesPutTo peer (.complete 0) := by decide +kernel
  have kept : ∀ behavior, .behave peer behavior ∉ mishap := by simp [mishap]
  have keptFirst : ∀ behavior, .behave peer behavior ∉ mishap.take 3 := by simp [mishap]
  have keptLater : ∀ behavior, .behave peer behavior ∉ later := by simp [later, mishap]
  obtain ⟨answers, fails⟩ := run_countdowns before
  have first := (answers peer 1 mishap kept (.advance ())).1 request _ due denied
    (by decide +kernel)
  have second := (answers peer 1 later keptLater (.advance ())).1 request _ dueLater stored
    (by decide +kernel)
  have remains := (answers peer 1 (mishap.take 3) keptFirst (.complete 0)).2 nofun spared
  have failed := fails 1 [.advance ()] (by simp) (.advance ()) request rfl
  rw [none] at first
  rw [one] at second
  rw [untried] at failed
  refine ⟨⟨due, denied, first.1, ?_⟩, ⟨dueLater, stored, second.1, ?_⟩, ⟨spared, remains⟩, rfl,
    failed⟩
  · rw [first.2 key, if_neg fun both => absurd both.1 (by decide)]
    decide +kernel
  · exact (second.2 key).trans (if_pos ⟨Nat.le_refl 1, rfl⟩)

end Workload
end Quorate
