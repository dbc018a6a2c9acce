import Quorate.Proofs.Store.Frame

/-!
Who answers a call, and with what. The peers that are responsible for the location answer, in the
order in which the store lists its peers, unless they are offline. A peer answers a put as it
behaves, and a removal by what it holds, which it holds no more afterwards.
-/

namespace Quorate.Store

private theorem Behavior.status?_eq_none_iff (behavior : Behavior) (present : behavior ≠ .offline) :
    behavior.status? = none ↔ behavior = .silent := by
  cases behavior with
  | denyTimes count => cases count <;> simp [status?]
  | offline => exact absurd rfl present
  | _ => simp [status?]

private theorem Shelf.erase_of_get?_eq_none {shelf : Shelf} {key : VersionKey}
    (unheld : shelf.get? key = none) : shelf.erase key = shelf := by
  have others : shelf.entries.filter (fun entry => entry.1 ≠ key) = shelf.entries := by
    rw [List.filter_eq_self]
    intro entry present
    have different := List.lookup_eq_none_iff.mp unheld entry present
    exact decide_eq_true (bne_iff_ne.mp different).symm
  exact congrArg Shelf.mk others

namespace Replica

variable (replica : Replica) (request : Request) (key : VersionKey)

def removalAck : Ack :=
  .withStatus replica.peer key (if replica.shelf.holds key then .ok else .notFound)

private theorem remove_fst :
    (replica.remove key).1 =
      if replica.behavior = .offline then none else some (replica.removalAck key) := by
  unfold remove removalAck
  split <;> rfl

def ack (call : Call) : Ack :=
  match call with
  | .put => replica.putAck request
  | .remove => replica.removalAck request.versionKey

private theorem ack_peer (call : Call) : (replica.ack request call).peer = replica.peer := by
  cases call <;> rfl

private theorem remove_of_get?_eq_none (unheld : replica.shelf.get? key = none) :
    (replica.remove key).2 = replica := by
  unfold remove
  split
  · rfl
  · rw [Shelf.erase_of_get?_eq_none unheld]

end Replica

namespace Cluster

variable (cluster : Cluster) (location : String) (request : Request)

def behavior? (peer : Peer) : Option Behavior := (cluster.replica? peer).map Replica.behavior

/-- The peers that answer the calls for a location. -/
def respondents : List Peer :=
  cluster.peers.filter fun peer =>
    peer ∈ cluster.responsible location ∧ cluster.behavior? peer ≠ some .offline

variable {cluster} in
private theorem mem_responsible_of_factor (enough : cluster.peers.length ≤ cluster.factor)
    (peer : Peer) : peer ∈ cluster.responsible location ↔ peer ∈ cluster.peers := by
  unfold responsible Placement.select
  rw [Placement.selectBy_eq_rankBy _ _ enough]
  exact Placement.mem_rankBy _ _

variable {cluster} in
theorem answers_of_factor (enough : cluster.peers.length ≤ cluster.factor) {replica : Replica}
    (present : replica ∈ cluster.replicas) :
    cluster.answers location replica = decide (replica.behavior ≠ .offline) := by
  have chosen : replica.peer ∈ cluster.responsible location :=
    (mem_responsible_of_factor location enough replica.peer).mpr (List.mem_map_of_mem present)
  unfold answers
  rw [decide_eq_true chosen, Bool.true_and]

variable {cluster} in
theorem behavior?_of_replica? {peer : Peer} {replica : Replica}
    (found : cluster.replica? peer = some replica) :
    cluster.behavior? peer = some replica.behavior :=
  congrArg (Option.map Replica.behavior) found

private theorem respondents_eq :
    cluster.respondents location =
      (cluster.replicas.filter (cluster.answers location)).map Replica.peer := by
  unfold respondents peers
  rw [List.filter_map]
  congr 1
  apply List.filter_congr
  intro replica present
  have known := behavior?_of_replica? (replica?_of_mem present)
  simp only [Function.comp_apply, answers, known, ne_eq, Option.some.injEq, Bool.decide_and]

theorem respondents_nodup : (cluster.respondents location).Nodup :=
  cluster.distinct.sublist List.filter_sublist

theorem mem_respondents_iff (peer : Peer) :
    peer ∈ cluster.respondents location ↔
      peer ∈ cluster.responsible location ∧ cluster.behavior? peer ≠ some .offline := by
  unfold respondents
  rw [List.mem_filter, decide_eq_true_iff, and_iff_right_iff_imp]
  intro answers
  exact (Placement.mem_rankBy _ _).mp (List.mem_of_mem_take answers.1)

theorem behavior?_eq_profile (peer : Peer) :
    cluster.behavior? peer =
      (cluster.profile.find? fun entry => entry.1 = peer).map Prod.snd := by
  unfold behavior? replica? profile
  rw [List.find?_map, Option.map_map]
  rfl

theorem behavior?_congr {after : Cluster} (same : after.profile = cluster.profile) (peer : Peer) :
    after.behavior? peer = cluster.behavior? peer := by
  rw [behavior?_eq_profile, behavior?_eq_profile, same]

theorem respondents_congr {left right : Cluster} (peers : left.peers = right.peers)
    (factors : left.factor = right.factor)
    (offline : ∀ peer,
      left.behavior? peer = some .offline ↔ right.behavior? peer = some .offline) :
    left.respondents location = right.respondents location := by
  unfold respondents
  simp only [peers, responsible_congr location peers factors, ne_eq, offline]

variable {cluster request} {call : Call} {response : Response}

theorem acks_of_complete (completed : (cluster.complete call request).1 = .ok response) :
    response.acks = (cluster.replicas.filter (cluster.answers request.location)).map
      (Replica.ack · request call) := by
  cases call with
  | put =>
      change (cluster.completePut request).1 = .ok response at completed
      unfold completePut at completed
      split at completed
      · cases completed
      · cases completed
        exact cluster.acks_apply_put request
  | remove =>
      change (cluster.completeRemoval request).1 = .ok response at completed
      unfold completeRemoval at completed
      split at completed
      · cases completed
      · cases completed
        exact cluster.acks_apply request.location (Replica.remove request.versionKey)
          (Replica.remove_peer request.versionKey) (Replica.removalAck · request.versionKey)
          fun replica => replica.remove_fst request.versionKey

theorem peers_of_complete (completed : (cluster.complete call request).1 = .ok response) :
    response.acks.map Ack.peer = cluster.respondents request.location := by
  rw [acks_of_complete completed, respondents_eq, List.map_map]
  apply List.map_congr_left
  intro replica _present
  exact replica.ack_peer request call

theorem peers_of_complete_nodup (completed : (cluster.complete call request).1 = .ok response) :
    (response.acks.map Ack.peer).Nodup := by
  rw [peers_of_complete completed]
  exact cluster.respondents_nodup request.location

theorem exists_replica_of_ack (completed : (cluster.complete call request).1 = .ok response)
    {ack : Ack} (present : ack ∈ response.acks) :
    ∃ replica, cluster.replica? ack.peer = some replica ∧ replica.behavior ≠ .offline ∧
      replica.peer ∈ cluster.responsible request.location ∧ ack = replica.ack request call := by
  rw [acks_of_complete completed] at present
  obtain ⟨replica, answering, rfl⟩ := List.mem_map.mp present
  obtain ⟨among, answers⟩ := List.mem_filter.mp answering
  rw [Cluster.answers, Bool.and_eq_true, decide_eq_true_iff, decide_eq_true_iff] at answers
  refine ⟨replica, ?_, answers.2, answers.1, rfl⟩
  rw [replica.ack_peer]
  exact replica?_of_mem among

variable {ack : Ack}

/-- Silent peers give no status, and every other peer gives the one of its behaviour. -/
theorem statuses_of_put (completed : (cluster.complete .put request).1 = .ok response)
    (present : ack ∈ response.acks) :
    (ack.statuses = none ↔ cluster.behavior? ack.peer = some .silent) ∧
      (ack.statuses = none ∨ ∃ status,
        (cluster.behavior? ack.peer).bind Behavior.status? = some status ∧
          ack.statuses = some [(request.versionKey, status)]) := by
  obtain ⟨replica, found, online, _, same⟩ := exists_replica_of_ack completed present
  have statuses : ack.statuses =
      replica.behavior.status?.map fun status => [(request.versionKey, status)] :=
    congrArg Ack.statuses same
  have none := replica.behavior.status?_eq_none_iff online
  rw [behavior?_of_replica? found, statuses, Option.map_eq_none_iff, none, Option.some.injEq]
  refine ⟨Iff.rfl, ?_⟩
  cases answer : replica.behavior.status? with
  | none => exact .inl (none.mp answer)
  | some status => exact .inr ⟨status, answer, rfl⟩

theorem statuses_of_removal (completed : (cluster.complete .remove request).1 = .ok response)
    (present : ack ∈ response.acks) :
    ack.statuses = some [(request.versionKey,
      if (cluster.content? ack.peer request.versionKey).isSome then .ok else .notFound)] := by
  obtain ⟨replica, found, _, _, same⟩ := exists_replica_of_ack completed present
  have held : (cluster.content? ack.peer request.versionKey).isSome =
      replica.shelf.holds request.versionKey := by
    unfold content?
    rw [found]
    rfl
  rw [held]
  exact congrArg Ack.statuses same

/-! ### Removals -/

def Without (cluster : Cluster) (peers : List Peer) (key : VersionKey) : Prop :=
  cluster.Everywhere fun peer shelf => peer ∈ peers → shelf.get? key = none

theorem Without.content? {peers : List Peer} {key : VersionKey}
    (without : cluster.Without peers key) {peer : Peer} (among : peer ∈ peers) :
    cluster.content? peer key = none := by
  unfold Cluster.content?
  cases found : cluster.replica? peer with
  | none => rfl
  | some replica =>
      have lacks := everywhere_iff.mp without replica (List.mem_of_find?_eq_some found)
      rw [peer_of_replica? peer found] at lacks
      exact lacks among

theorem Without.of_removed (removed : (cluster.complete .remove request).1 = .ok response) :
    (cluster.complete .remove request).2.Without (cluster.respondents request.location)
      request.versionKey := by
  unfold Without
  rw [everywhere_iff, cluster.replicas_complete_ok .remove request removed]
  intro replica present among
  obtain ⟨old, listed, rfl⟩ := List.mem_map.mp present
  split at among
  · next chosen =>
      rw [old.applied_peer, mem_respondents_iff,
        behavior?_of_replica? (replica?_of_mem listed)] at among
      have online : old.behavior ≠ .offline := fun absent => among.2 (congrArg some absent)
      rw [if_pos chosen]
      change (old.remove request.versionKey).2.shelf.get? request.versionKey = none
      rw [old.remove_shelf, if_neg online, Shelf.get?_erase, if_pos rfl]
  · next other => exact absurd ((mem_respondents_iff _ _ _).mp among).1 other

private theorem apply_of_still (change : Replica → Option Ack × Replica)
    (keeps : ∀ replica, (change replica).2.peer = replica.peer)
    (still : ∀ replica, replica ∈ cluster.replicas →
      replica.peer ∈ cluster.responsible location → (change replica).2 = replica) :
    (cluster.apply location change keeps).2 = cluster := by
  have same : (cluster.apply location change keeps).2.replicas = cluster.replicas := by
    rw [replicas_apply]
    refine (List.map_congr_left ?_).trans (List.map_id _)
    intro replica present
    split
    · next chosen => exact still replica present chosen
    · rfl
  obtain ⟨replicas, distinct, factor⟩ := cluster
  unfold apply at same ⊢
  rw [Cluster.mk.injEq]
  exact ⟨same, rfl, rfl, rfl, rfl, rfl, rfl, rfl⟩

theorem working_of_removed (removed : (cluster.complete .remove request).1 = .ok response) :
    cluster.failingRemovals = false := by
  change (cluster.completeRemoval request).1 = .ok response at removed
  unfold completeRemoval at removed
  split at removed
  · cases removed
  · next working => exact Bool.eq_false_of_not_eq_true working

theorem Without.complete_remove
    (without : cluster.Without (cluster.respondents request.location) request.versionKey)
    (working : cluster.failingRemovals = false) :
    cluster.complete .remove request =
      (.ok ⟨(cluster.respondents request.location).map
        (Ack.withStatus · request.versionKey .notFound)⟩, cluster) := by
  obtain ⟨response, completed⟩ := cluster.exists_response_remove request working
  have lacks : ∀ replica, replica ∈ cluster.replicas →
      cluster.answers request.location replica = true →
        replica.shelf.get? request.versionKey = none := by
    intro replica present answers
    apply everywhere_iff.mp without replica present
    rw [respondents_eq]
    exact List.mem_map_of_mem (List.mem_filter.mpr ⟨present, answers⟩)
  have acks : response.acks = (cluster.respondents request.location).map
      (Ack.withStatus · request.versionKey .notFound) := by
    rw [acks_of_complete completed, respondents_eq, List.map_map]
    apply List.map_congr_left
    intro replica kept
    obtain ⟨present, answers⟩ := List.mem_filter.mp kept
    change replica.removalAck request.versionKey = _
    unfold Replica.removalAck Shelf.holds
    rw [lacks replica present answers]
    rfl
  have still : (cluster.complete .remove request).2 = cluster := by
    change (cluster.completeRemoval request).2 = cluster
    unfold completeRemoval
    rw [working]
    refine apply_of_still request.location (Replica.remove request.versionKey)
      (Replica.remove_peer request.versionKey) ?_
    intro replica present chosen
    by_cases absent : replica.behavior = .offline
    · unfold Replica.remove
      rw [if_pos absent]
    · apply replica.remove_of_get?_eq_none
      apply lacks replica present
      unfold answers
      rw [decide_eq_true chosen, decide_eq_true absent]
      rfl
  rw [← acks]
  exact Prod.ext completed still

end Cluster
end Quorate.Store
