import Quorate.Proofs.Quorum
import Quorate.Store.Cluster

/-!
What the completion of a call does to a cluster, apart from what its peers hold: how the peers
behave afterwards, which of them answer, and whether their answers make a quorum.
-/

namespace Quorate.Store

namespace Behavior

theorem next_eq_offline_iff (behavior : Behavior) :
    behavior.next = .offline ↔ behavior = .offline := by
  cases behavior with
  | denyTimes count => cases count <;> simp [next]
  | _ => simp [next]

def after (behavior : Behavior) : Nat → Behavior
  | 0 => behavior
  | puts + 1 => (behavior.after puts).next

theorem after_eq_offline_iff (behavior : Behavior) (puts : Nat) :
    behavior.after puts = .offline ↔ behavior = .offline := by
  induction puts with
  | zero => exact Iff.rfl
  | succ puts ih => exact (next_eq_offline_iff _).trans ih

theorem after_of_next_eq (behavior : Behavior) (steady : behavior.next = behavior) (puts : Nat) :
    behavior.after puts = behavior := by
  induction puts with
  | zero => rfl
  | succ puts ih =>
      unfold after
      rw [ih, steady]

theorem after_denyTimes (count puts : Nat) :
    (denyTimes count).after puts = if puts ≤ count then .denyTimes (count - puts) else .accept := by
  induction puts with
  | zero => rfl
  | succ puts ih =>
      unfold after
      rw [ih]
      by_cases early : puts + 1 ≤ count
      · obtain ⟨left, leftIs⟩ : ∃ left, count - puts = left + 1 := ⟨count - puts - 1, by omega⟩
        rw [if_pos (by omega), if_pos early, leftIs]
        change denyTimes left = denyTimes (count - (puts + 1))
        congr 1
        omega
      · rw [if_neg early]
        by_cases last : puts ≤ count
        · have none : count - puts = 0 := by omega
          rw [if_pos last, none]
          rfl
        · rw [if_neg last]
          rfl

def fails (behavior : Behavior) : Bool :=
  match behavior.status? with
  | none => true
  | some answer => answer.denies

/-- A peer counts against a put when so many puts have been applied to it before. -/
def deniesAfter (puts : Nat) : Behavior → Bool
  | .accept => false
  | .deny => true
  | .denySecurity => true
  | .denyTimes count => decide (puts < count)
  | .silent => true
  | .status code => decide (code = 1 ∨ code = 2)
  | .offline => false

theorem ofCode_denies (code : UInt8) :
    (Status.ofCode code).denies = decide (code = 1 ∨ code = 2) := by
  revert code
  decide +kernel

theorem fails_after (behavior : Behavior) (present : behavior ≠ .offline) (puts : Nat) :
    (behavior.after puts).fails = behavior.deniesAfter puts := by
  cases behavior with
  | denyTimes count =>
      rw [after_denyTimes]
      by_cases early : puts < count
      · obtain ⟨left, leftIs⟩ : ∃ left, count - puts = left + 1 := ⟨count - puts - 1, by omega⟩
        rw [if_pos (Nat.le_of_lt early), leftIs]
        exact (decide_eq_true early).symm
      · rw [deniesAfter, decide_eq_false early]
        by_cases last : puts ≤ count
        · have none : count - puts = 0 := by omega
          rw [if_pos last, none]
          rfl
        · rw [if_neg last]
          rfl
  | status code =>
      rw [after_of_next_eq _ rfl]
      exact ofCode_denies code
  | offline => exact absurd rfl present
  | accept => rw [after_of_next_eq _ rfl]; rfl
  | deny => rw [after_of_next_eq _ rfl]; rfl
  | denySecurity => rw [after_of_next_eq _ rfl]; rfl
  | silent => rw [after_of_next_eq _ rfl]; rfl

theorem deniesAfter_of_le (behavior : Behavior) {early late : Nat} (order : early ≤ late)
    (denies : behavior.deniesAfter late = true) : behavior.deniesAfter early = true := by
  cases behavior with
  | denyTimes count =>
      have less : late < count := of_decide_eq_true denies
      exact decide_eq_true (Nat.lt_of_le_of_lt order less)
  | _ => exact denies

end Behavior

namespace Replica

variable (replica : Replica) (request : Request) (key : VersionKey)

def putAck : Ack :=
  ⟨replica.peer, replica.behavior.status?.map fun status => [(request.versionKey, status)]⟩

private theorem put_fst :
    (replica.put request).1 =
      if replica.behavior = .offline then none else some (replica.putAck request) := by
  unfold put putAck
  by_cases absent : replica.behavior = .offline
  · rw [if_pos absent, if_pos absent]
  · rw [if_neg absent, if_neg absent]
    cases replica.behavior.status? <;> rfl

theorem put_behavior : (replica.put request).2.behavior = replica.behavior.next := by
  unfold put
  by_cases absent : replica.behavior = .offline
  · rw [if_pos absent, absent]
    rfl
  · rw [if_neg absent]
    obtain ⟨peer, behavior, shelf⟩ := replica
    cases behavior with
    | denyTimes count => cases count <;> rfl
    | _ => rfl

theorem remove_behavior : (replica.remove key).2.behavior = replica.behavior := by
  unfold remove
  split <;> rfl

theorem putAck_countsAgainst_iff :
    Quorum.CountsAgainst (replica.putAck request) ↔ replica.behavior.fails = true := by
  rw [Quorum.countsAgainst_iff]
  unfold putAck Behavior.fails Quorum.denied
  cases replica.behavior.status? <;> simp

end Replica

namespace Cluster

variable (cluster : Cluster) (request : Request) (location : String)

def profile : List (Peer × Behavior) :=
  cluster.replicas.map fun replica => (replica.peer, replica.behavior)

theorem peers_eq_profile : cluster.peers = cluster.profile.map Prod.fst := by
  unfold peers profile
  rw [List.map_map]
  rfl

theorem responsible_congr {left right : Cluster} (peers : left.peers = right.peers)
    (factors : left.factor = right.factor) :
    left.responsible location = right.responsible location := by
  unfold responsible
  rw [peers, factors]

theorem countP_profile (counted : Peer × Behavior → Bool) :
    cluster.profile.countP counted =
      cluster.replicas.countP fun replica => counted (replica.peer, replica.behavior) := by
  unfold profile
  rw [List.countP_map]
  rfl

private theorem profile_apply (change : Replica → Option Ack × Replica)
    (keeps : ∀ replica, (change replica).2.peer = replica.peer) (next : Behavior → Behavior)
    (moves : ∀ replica, (change replica).2.behavior = next replica.behavior) :
    (cluster.apply location change keeps).2.profile =
      cluster.profile.map fun entry =>
        (entry.1, if entry.1 ∈ cluster.responsible location then next entry.2 else entry.2) := by
  unfold profile apply
  dsimp only
  rw [List.map_map, List.map_map, List.map_map]
  apply List.map_congr_left
  intro replica _present
  simp only [Function.comp_apply]
  by_cases chosen : replica.peer ∈ cluster.responsible location
  · rw [if_pos chosen, if_pos chosen, keeps, moves]
  · rw [if_neg chosen, if_neg chosen]

/-! ### The answers to a put -/

def answers (replica : Replica) : Bool :=
  decide (replica.peer ∈ cluster.responsible location) && decide (replica.behavior ≠ .offline)

theorem acks_apply (change : Replica → Option Ack × Replica)
    (keeps : ∀ replica, (change replica).2.peer = replica.peer) (ack : Replica → Ack)
    (gives : ∀ replica, (change replica).1 =
      if replica.behavior = .offline then none else some (ack replica)) :
    (cluster.apply location change keeps).1.acks =
      (cluster.replicas.filter (cluster.answers location)).map ack := by
  have each : (Prod.fst ∘ fun replica : Replica =>
      if replica.peer ∈ cluster.responsible location then change replica else (none, replica)) =
      fun replica => if cluster.answers location replica then some (ack replica) else none := by
    funext replica
    simp only [Function.comp_apply, answers]
    by_cases chosen : replica.peer ∈ cluster.responsible location
    · by_cases absent : replica.behavior = .offline
      · simp [chosen, absent, gives]
      · simp [chosen, absent, gives]
    · simp [chosen]
  unfold apply
  dsimp only
  rw [List.filterMap_map, each]
  induction cluster.replicas with
  | nil => rfl
  | cons replica rest ih =>
      by_cases answering : cluster.answers location replica = true
      · simp [answering, ih]
      · simp [answering, ih]

theorem acks_apply_put :
    (cluster.apply request.location (Replica.put request) (Replica.put_peer request)).1.acks =
      (cluster.replicas.filter (cluster.answers request.location)).map
        (Replica.putAck · request) :=
  cluster.acks_apply request.location (Replica.put request) (Replica.put_peer request)
    (Replica.putAck · request) fun replica => replica.put_fst request

private theorem acks_apply_put_distinct :
    ((cluster.apply request.location (Replica.put request)
      (Replica.put_peer request)).1.acks.map Ack.peer).Nodup := by
  rw [acks_apply_put, List.map_map]
  exact cluster.distinct.sublist (List.Sublist.map Replica.peer List.filter_sublist)

/-- The peers that answer and fail have to be fewer than half of those that answer. -/
theorem accepted_apply_put :
    (Quorum.evaluate (.ok (cluster.apply request.location (Replica.put request)
      (Replica.put_peer request)).1)).accepted =
      decide (2 * cluster.replicas.countP (fun replica =>
          cluster.answers request.location replica && replica.behavior.fails) <
        cluster.replicas.countP (cluster.answers request.location)) := by
  have failed : ∀ replica : Replica,
      decide (Quorum.CountsAgainst (replica.putAck request)) = replica.behavior.fails := by
    intro replica
    rw [Bool.eq_iff_iff, decide_eq_true_iff]
    exact replica.putAck_countsAgainst_iff request
  have known : Quorum.answers (.ok (cluster.apply request.location (Replica.put request)
      (Replica.put_peer request)).1) = _ := cluster.acks_apply_put request
  have distinct := cluster.acks_apply_put_distinct request
  rw [acks_apply_put] at distinct
  rw [Quorum.evaluate_eq, known, Quorum.failedPeers_eq _ distinct]
  simp only [List.length_map, List.filter_map, List.filter_filter, Function.comp_def, failed,
    ← List.countP_eq_length_filter]
  unfold Quorum.holds
  rw [decide_eq_decide, Nat.mul_comm]
  simp only [Bool.and_comm]

/-! ### Completions -/

theorem accepted_completePut_iff :
    (Quorum.evaluate (cluster.completePut request).1).accepted = true ↔
      cluster.failingPuts = 0 ∧
        2 * cluster.replicas.countP (fun replica =>
            cluster.answers request.location replica && replica.behavior.fails) <
          cluster.replicas.countP (cluster.answers request.location) := by
  unfold completePut
  cases cluster.failingPuts with
  | zero =>
      dsimp only
      rw [accepted_apply_put, decide_eq_true_iff]
      exact (and_iff_right rfl).symm
  | succ left =>
      constructor
      · intro accepted
        cases accepted
      · intro sound
        cases sound.1

theorem profile_completePut :
    (cluster.completePut request).2.profile =
      if cluster.failingPuts = 0 then
        cluster.profile.map fun entry =>
          (entry.1, if entry.1 ∈ cluster.responsible request.location then entry.2.next
            else entry.2)
      else cluster.profile := by
  unfold completePut
  cases cluster.failingPuts with
  | zero =>
      exact cluster.profile_apply request.location (Replica.put request) (Replica.put_peer request)
        Behavior.next fun replica => replica.put_behavior request
  | succ left => rfl

theorem completePut_settings :
    let after := (cluster.completePut request).2
    after.factor = cluster.factor ∧ after.rejecting = cluster.rejecting ∧
      after.failingPuts = cluster.failingPuts - 1 ∧ after.puts = cluster.puts ∧
      after.removals = cluster.removals := by
  unfold completePut
  cases failing : cluster.failingPuts with
  | zero => exact ⟨rfl, rfl, failing, rfl, rfl⟩
  | succ left => exact ⟨rfl, rfl, rfl, rfl, rfl⟩

theorem profile_completeRemoval :
    (cluster.completeRemoval request).2.profile = cluster.profile := by
  unfold completeRemoval
  split
  · rfl
  · have kept := cluster.profile_apply request.location (Replica.remove request.versionKey)
      (Replica.remove_peer request.versionKey) id
      fun replica => replica.remove_behavior request.versionKey
    simp only [id_eq, ite_self, Prod.mk.eta, List.map_id'] at kept
    exact kept

theorem completeRemoval_settings :
    let after := (cluster.completeRemoval request).2
    after.factor = cluster.factor ∧ after.rejecting = cluster.rejecting ∧
      after.failingPuts = cluster.failingPuts ∧ after.puts = cluster.puts ∧
      after.removals = cluster.removals := by
  unfold completeRemoval
  split
  · exact ⟨rfl, rfl, rfl, rfl, rfl⟩
  · exact ⟨rfl, rfl, rfl, rfl, rfl⟩

end Cluster
end Quorate.Store
