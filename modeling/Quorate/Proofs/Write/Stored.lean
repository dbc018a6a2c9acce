import Quorate.Proofs.Write.Independence
import Quorate.Proofs.Write.Verdict

/-!
What a store holds after a write that nobody else disturbs. Every removal reaches all peers that may
hold the version, so the last put decides what is left: what it stored if it was accepted, and
nothing if it was taken back.
-/

namespace Quorate.Store.Cluster

open Write

variable {cluster : Cluster} {request : Request}

/-! ### One put -/

private theorem replicaCount_completePut (sound : cluster.failingPuts = 0)
    (absent : cluster.Absent request.versionKey) :
    (cluster.completePut request).2.replicaCount request.versionKey =
      cluster.replicas.countP fun replica =>
        decide (replica.peer ∈ cluster.responsible request.location) &&
          decide (replica.behavior.status? = some .ok) := by
  have applied : (cluster.completePut request).2.replicas =
      cluster.replicas.map fun replica =>
        if replica.peer ∈ cluster.responsible request.location
        then (replica.put request).2 else replica := by
    unfold completePut
    rw [sound]
    exact cluster.replicas_apply request.location (Replica.put request) (Replica.put_peer request)
  unfold replicaCount
  rw [applied, List.countP_map]
  apply List.countP_congr
  intro replica present
  have unheld : replica.shelf.get? request.versionKey = none :=
    everywhere_iff.mp absent replica present
  unfold Shelf.holds
  by_cases chosen : replica.peer ∈ cluster.responsible request.location
  · by_cases stores : replica.behavior.status? = some .ok
    · simp [chosen, stores, Replica.put_shelf]
    · simp [chosen, stores, Replica.put_shelf, unheld]
  · simp [chosen, unheld]

/-- How many peers responsible for a location store a put when so many puts have been applied
before it. -/
def storing (cluster : Cluster) (location : String) (puts : Nat) : Nat :=
  cluster.replicas.countP fun replica =>
    decide (replica.peer ∈ cluster.responsible location) &&
      decide ((replica.behavior.after puts).status? = some .ok)

private theorem Aged.storing {count : Nat} {later : Cluster}
    (state : Aged cluster request count later) :
    later.storing request.location 0 =
      cluster.storing request.location (count - cluster.failingPuts) := by
  have responsible := state.responsible request.location
  unfold Cluster.storing
  rw [responsible, ← later.countP_profile fun entry =>
      decide (entry.1 ∈ cluster.responsible request.location) &&
        decide ((entry.2.after 0).status? = some .ok),
    state.profile, List.countP_map, countP_profile]
  apply List.countP_congr
  intro replica _present
  simp only [Function.comp_apply, aged]
  by_cases chosen : replica.peer ∈ cluster.responsible request.location
  · simp only [if_pos chosen, Behavior.after]
  · simp [chosen]

/-! ### Taking puts back -/

structure Removable (cluster : Cluster) (request : Request) : Prop where
  placed : cluster.Placed
  working : cluster.failingRemovals = false
  online : cluster.Online request.location

private theorem Online.complete {location : String} (online : cluster.Online location) (call : Call)
    (other : Request) : (cluster.complete call other).2.Online location := by
  have responsible := responsible_congr location (cluster.peers_complete call other)
    (cluster.factor_complete call other)
  unfold Online
  rw [responsible]
  rcases cluster.complete_cases call other with ⟨_, same⟩ | ⟨_, applied⟩
  · rw [same]
    exact online
  · rw [applied]
    intro replica present chosen
    obtain ⟨old, among, rfl⟩ := List.mem_map.mp present
    by_cases reached : old.peer ∈ cluster.responsible other.location
    · rw [if_pos reached] at chosen ⊢
      rw [old.applied_peer] at chosen
      have before := online old among chosen
      cases call with
      | put =>
          change (old.put other).2.behavior ≠ .offline
          rw [old.put_behavior, ne_eq, Behavior.next_eq_offline_iff]
          exact before
      | remove =>
          change (old.remove other.versionKey).2.behavior ≠ .offline
          rw [old.remove_behavior]
          exact before
    · rw [if_neg reached] at chosen ⊢
      exact online old among chosen

private theorem Removable.served (removable : cluster.Removable request)
    (accepting : cluster.rejecting = false) (call : Call) :
    (serve call request cluster).2.Removable request := by
  rw [serve_eq cluster call request accepting]
  constructor
  case placed => exact (removable.placed.taking call).complete call request
  case working =>
    rw [failingRemovals_complete]
    cases call <;> exact removable.working
  case online =>
    have taken : (cluster.taking call).Online request.location := by
      cases call <;> exact removable.online
    exact taken.complete call request

private theorem Removable.absent (removable : cluster.Removable request)
    (accepting : cluster.rejecting = false) :
    (serve .remove request cluster).2.Absent request.versionKey := by
  rw [serve_eq cluster .remove request accepting]
  have working : (cluster.taking .remove).failingRemovals = false := removable.working
  obtain ⟨_response, removed⟩ := exists_response_remove _ request working
  exact (removable.placed.taking .remove).absent_of_removed request removed removable.online

private theorem Removable.rounds (removable : cluster.Removable request)
    (accepting : cluster.rejecting = false) (absent : cluster.Absent request.versionKey)
    (count : Nat) :
    (afterRounds serve request count cluster).Removable request ∧
      (afterRounds serve request count cluster).Absent request.versionKey := by
  induction count with
  | zero => exact ⟨removable, absent⟩
  | succ count ih =>
      have ready := (Aged.rounds cluster request accepting count).rejecting
      have put := ih.1.served ready .put
      have taking := (serve_put_settings _ request ready).2.1
      rw [afterRounds_succ]
      exact ⟨put.served taking .remove, put.absent taking⟩

/-! ### Whole writes -/

private theorem put_of_verdict {budget : UInt32} {accepted : Bool} (valid : request.check = .ok ())
    (verdict : (drive serve (attempting request budget 0).callsLeft
      (attempting request budget 0) cluster).1.verdict? = some accepted) :
    cluster.put request budget =
      .ok (accepted, (drive serve (attempting request budget 0).callsLeft
        (attempting request budget 0) cluster).2) := by
  unfold put
  rw [valid]
  exact congrArg (fun verdict => Except.ok (verdict.getD false, _)) verdict

section Put

variable (budget : UInt32) (valid : request.check = .ok ()) (accepting : cluster.rejecting = false)
  (bounded : budget.toNat + 1 < UInt32.size) (removable : cluster.Removable request)
  (absent : cluster.Absent request.versionKey)

include valid accepting bounded removable absent

theorem put_of_first_good (count : Nat) (within : count ≤ budget.toNat)
    (good : cluster.Good request.location count)
    (least : ∀ earlier, earlier < count → ¬cluster.Good request.location earlier) :
    ∃ after, cluster.put request budget = .ok (true, after) ∧
      after.puts = cluster.puts + UInt32.ofNat (count + 1) ∧
      after.removals = cluster.removals + UInt32.ofNat count ∧
      after.replicaCount request.versionKey =
        cluster.storing request.location (count - cluster.failingPuts) := by
  obtain ⟨verdict, puts, removals⟩ :=
    cluster.drive_of_first_good request budget accepting bounded count within good least
  have driven := drive_of_accepts serve request budget cluster count
    (fun earlier less => cluster.refuses_of_not_good request accepting earlier (least earlier less))
    ((cluster.accepts_iff_good request accepting count).mpr good) within bounded
  refine ⟨_, ?_, puts, removals, ?_⟩
  · exact put_of_verdict valid verdict
  · have state := Aged.rounds cluster request accepting count
    have failing : (afterRounds serve request count cluster).failingPuts = 0 := by
      rw [state.failingPuts]
      exact Nat.sub_eq_zero_of_le good.1
    rw [driven, ← state.storing, serve_put _ request state.rejecting]
    exact replicaCount_completePut failing (removable.rounds accepting absent count).2

theorem put_of_none_good
    (none : ∀ attempt, attempt ≤ budget.toNat → ¬cluster.Good request.location attempt) :
    ∃ after, cluster.put request budget = .ok (false, after) ∧
      after.puts = cluster.puts + UInt32.ofNat (budget.toNat + 1) ∧
      after.removals = cluster.removals + UInt32.ofNat (budget.toNat + 1) ∧
      after.replicaCount request.versionKey = 0 := by
  obtain ⟨verdict, puts, removals⟩ :=
    cluster.drive_of_none_good request budget accepting bounded none
  have driven := drive_of_refuses serve request budget cluster
    (fun attempt within => cluster.refuses_of_not_good request accepting attempt
      (none attempt within)) bounded
  refine ⟨_, ?_, puts, removals, ?_⟩
  · exact put_of_verdict valid verdict
  · rw [driven]
    exact absent_iff_replicaCount.mp
      (removable.rounds accepting absent (budget.toNat + 1)).2

end Put

end Quorate.Store.Cluster
