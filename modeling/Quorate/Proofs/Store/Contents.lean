import Quorate.Proofs.Placement
import Quorate.Proofs.Store.Completion

/-!
What the peers of a cluster hold, and what the completion of a call does to it. A call that fails
leaves every shelf as it is; any other is applied by the peers responsible for its location, and by
no others.
-/

namespace Quorate.Store

namespace Replica

variable (replica : Replica) (request : Request) (key : VersionKey)

theorem put_shelf :
    (replica.put request).2.shelf =
      if replica.behavior.status? = some .ok then
        replica.shelf.insert request.versionKey request.value
      else replica.shelf := by
  unfold put
  by_cases absent : replica.behavior = .offline
  · have silent : replica.behavior.status? = none := by rw [absent]; rfl
    rw [if_pos absent, if_neg (by rw [silent]; nofun)]
  · rw [if_neg absent]
    cases replica.behavior.status? with
    | none => rfl
    | some status =>
        by_cases stored : status = .ok
        · simp only [stored, if_true]
        · simp only [stored, if_false, Option.some.injEq]

theorem remove_shelf :
    (replica.remove key).2.shelf =
      if replica.behavior = .offline then replica.shelf else replica.shelf.erase key := by
  unfold remove
  split <;> rfl

def applied (call : Call) : Replica :=
  match call with
  | .put => (replica.put request).2
  | .remove => (replica.remove request.versionKey).2

@[simp]
theorem applied_peer (call : Call) : (replica.applied request call).peer = replica.peer := by
  cases call with
  | put => exact replica.put_peer request
  | remove => exact replica.remove_peer request.versionKey

end Replica

namespace Cluster

variable (cluster : Cluster) (call : Call) (request : Request) (location : String)

theorem replicas_apply (change : Replica → Option Ack × Replica)
    (keeps : ∀ replica, (change replica).2.peer = replica.peer) :
    (cluster.apply location change keeps).2.replicas =
      cluster.replicas.map fun replica =>
        if replica.peer ∈ cluster.responsible location then (change replica).2 else replica := by
  unfold apply
  dsimp only
  rw [List.map_map]
  apply List.map_congr_left
  intro replica _present
  simp only [Function.comp_apply]
  split <;> rfl

theorem complete_cases :
    ((∃ failure, (cluster.complete call request).1 = .error failure) ∧
        (cluster.complete call request).2.replicas = cluster.replicas) ∨
      ((∃ response, (cluster.complete call request).1 = .ok response) ∧
        (cluster.complete call request).2.replicas =
          cluster.replicas.map fun replica =>
            if replica.peer ∈ cluster.responsible request.location
            then replica.applied request call else replica) := by
  cases call with
  | put =>
      change ((∃ failure, (cluster.completePut request).1 = .error failure) ∧
          (cluster.completePut request).2.replicas = cluster.replicas) ∨
        ((∃ response, (cluster.completePut request).1 = .ok response) ∧
          (cluster.completePut request).2.replicas = _)
      unfold completePut
      split
      · exact .inl ⟨⟨_, rfl⟩, rfl⟩
      · exact .inr ⟨⟨_, rfl⟩, cluster.replicas_apply _ _ (Replica.put_peer request)⟩
  | remove =>
      change ((∃ failure, (cluster.completeRemoval request).1 = .error failure) ∧
          (cluster.completeRemoval request).2.replicas = cluster.replicas) ∨
        ((∃ response, (cluster.completeRemoval request).1 = .ok response) ∧
          (cluster.completeRemoval request).2.replicas = _)
      unfold completeRemoval
      split
      · exact .inl ⟨⟨_, rfl⟩, rfl⟩
      · exact .inr ⟨⟨_, rfl⟩,
          cluster.replicas_apply _ _ (Replica.remove_peer request.versionKey)⟩

theorem replicas_complete_ok {response : Response}
    (completed : (cluster.complete call request).1 = .ok response) :
    (cluster.complete call request).2.replicas =
      cluster.replicas.map fun replica =>
        if replica.peer ∈ cluster.responsible request.location
        then replica.applied request call else replica := by
  rcases cluster.complete_cases call request with ⟨⟨failure, failed⟩, _⟩ | ⟨_, applied⟩
  · rw [completed] at failed
    cases failed
  · exact applied

theorem exists_response_remove (working : cluster.failingRemovals = false) :
    ∃ response, (cluster.complete .remove request).1 = .ok response := by
  change ∃ response, (cluster.completeRemoval request).1 = .ok response
  unfold completeRemoval
  rw [if_neg (by rw [working]; exact Bool.false_ne_true)]
  exact ⟨_, rfl⟩

theorem factor_complete : (cluster.complete call request).2.factor = cluster.factor := by
  cases call with
  | put => exact (cluster.completePut_settings request).1
  | remove => exact (cluster.completeRemoval_settings request).1

theorem failingRemovals_complete :
    (cluster.complete call request).2.failingRemovals = cluster.failingRemovals := by
  cases call with
  | put =>
      change (cluster.completePut request).2.failingRemovals = _
      unfold completePut
      split <;> rfl
  | remove =>
      change (cluster.completeRemoval request).2.failingRemovals = _
      unfold completeRemoval
      split <;> rfl

/-! ### What holds of every shelf -/

def shelves : List (Peer × Shelf) :=
  cluster.replicas.map fun replica => (replica.peer, replica.shelf)

theorem peers_eq_shelves : cluster.peers = cluster.shelves.map Prod.fst := by
  unfold peers shelves
  rw [List.map_map]
  rfl

theorem shelves_setBehavior (peer : Peer) (behavior : Behavior) :
    (cluster.setBehavior peer behavior).shelves = cluster.shelves :=
  map_changeFirst (fun replica => (replica.peer, replica.shelf))
    (fun replica => replica.peer = peer) (fun replica => { replica with behavior := behavior })
    (fun _ => rfl) cluster.replicas

theorem peers_complete : (cluster.complete call request).2.peers = cluster.peers := by
  unfold peers
  rcases cluster.complete_cases call request with ⟨_, same⟩ | ⟨_, applied⟩
  · rw [same]
  · rw [applied, List.map_map]
    apply List.map_congr_left
    intro replica _present
    simp only [Function.comp_apply]
    split
    · exact replica.applied_peer request call
    · rfl

/-- It holds of every peer together with what the peer holds. -/
def Everywhere (holds : Peer → Shelf → Prop) : Prop :=
  ∀ entry, entry ∈ cluster.shelves → holds entry.1 entry.2

variable {cluster} {holds : Peer → Shelf → Prop}

theorem everywhere_iff :
    cluster.Everywhere holds ↔
      ∀ replica, replica ∈ cluster.replicas → holds replica.peer replica.shelf :=
  List.forall_mem_map

private theorem Everywhere.applied {location : String} {after : Cluster}
    {change : Replica → Replica} (everywhere : cluster.Everywhere holds)
    (replicas : after.replicas = cluster.replicas.map fun replica =>
      if replica.peer ∈ cluster.responsible location then change replica else replica)
    (kept : ∀ replica, replica.peer ∈ cluster.responsible location →
      holds replica.peer replica.shelf → holds (change replica).peer (change replica).shelf) :
    after.Everywhere holds := by
  rw [everywhere_iff] at everywhere ⊢
  rw [replicas]
  intro replica present
  obtain ⟨old, among, rfl⟩ := List.mem_map.mp present
  have before := everywhere old among
  split
  · next chosen => exact kept old chosen before
  · exact before

/-- What outlasts erasing outlasts every completion, if it outlasts the put that is applied. -/
theorem Everywhere.complete (everywhere : cluster.Everywhere holds)
    (erasing : ∀ peer shelf key, holds peer shelf → holds peer (shelf.erase key))
    (inserting : ∀ response, call = .put → (cluster.complete call request).1 = .ok response →
      ∀ peer shelf, peer ∈ cluster.responsible request.location → holds peer shelf →
        holds peer (shelf.insert request.versionKey request.value)) :
    (cluster.complete call request).2.Everywhere holds := by
  rcases cluster.complete_cases call request with ⟨_, same⟩ | ⟨⟨response, completed⟩, applied⟩
  · rw [everywhere_iff] at everywhere ⊢
    rw [same]
    exact everywhere
  · apply everywhere.applied applied
    intro replica chosen before
    rw [replica.applied_peer]
    cases call with
    | put =>
        change holds replica.peer (replica.put request).2.shelf
        rw [replica.put_shelf]
        split
        · exact inserting response rfl completed _ _ chosen before
        · exact before
    | remove =>
        change holds replica.peer (replica.remove request.versionKey).2.shelf
        rw [replica.remove_shelf]
        split
        · exact before
        · exact erasing _ _ _ before

/-! ### Versions -/

/-- Only peers responsible for its location hold a version. -/
def Placed (cluster : Cluster) : Prop :=
  cluster.Everywhere fun peer shelf =>
    ∀ key, shelf.holds key = true → peer ∈ cluster.responsible key.location

/-- Whoever holds the version has this content for it. -/
def Only (cluster : Cluster) (key : VersionKey) (value : List UInt8) : Prop :=
  cluster.Everywhere fun _ shelf => shelf.get? key = none ∨ shelf.get? key = some value

def Absent (cluster : Cluster) (key : VersionKey) : Prop :=
  cluster.Everywhere fun _ shelf => shelf.get? key = none

def holders (cluster : Cluster) (key : VersionKey) (value : List UInt8) : List Peer :=
  (cluster.replicas.filter fun replica => replica.shelf.get? key = some value).map Replica.peer

theorem Placed.create (count factor : Nat) (latency : Duration) :
    (create count factor latency).Placed := by
  unfold Placed
  rw [everywhere_iff]
  intro replica present key held
  obtain ⟨peer, _, rfl⟩ := List.mem_map.mp present
  cases held

theorem Placed.congr {after : Cluster} (placed : cluster.Placed)
    (shelves : after.shelves = cluster.shelves) (factor : after.factor = cluster.factor) :
    after.Placed := by
  have peers : after.peers = cluster.peers := by
    rw [peers_eq_shelves, peers_eq_shelves, shelves]
  have responsible := fun location => responsible_congr location peers factor
  unfold Placed Everywhere at placed ⊢
  simp only [responsible]
  rw [shelves]
  exact placed

theorem Placed.complete (placed : cluster.Placed) (call : Call) (request : Request) :
    (cluster.complete call request).2.Placed := by
  have responsible := fun location => responsible_congr location
    (cluster.peers_complete call request) (cluster.factor_complete call request)
  unfold Placed at placed ⊢
  simp only [responsible]
  apply placed.complete
  · intro peer shelf key before other held
    apply before other
    unfold Shelf.holds at held ⊢
    rw [Shelf.get?_erase] at held
    split at held
    · cases held
    · exact held
  · intro response put completed peer shelf chosen before other held
    by_cases same : other = request.versionKey
    · rw [same]
      exact chosen
    · apply before other
      unfold Shelf.holds at held ⊢
      rw [Shelf.get?_insert, if_neg same] at held
      exact held

theorem absent_iff_replicaCount {key : VersionKey} :
    cluster.Absent key ↔ cluster.replicaCount key = 0 := by
  unfold Absent replicaCount Shelf.holds
  rw [everywhere_iff, List.countP_eq_zero]
  simp

theorem Absent.get? {key : VersionKey} (absent : cluster.Absent key) :
    cluster.get? key = none := by
  unfold Cluster.get?
  rw [List.findSome?_eq_none_iff]
  exact everywhere_iff.mp absent

theorem get?_isSome_iff (key : VersionKey) :
    (cluster.get? key).isSome = true ↔ 0 < cluster.replicaCount key := by
  unfold Cluster.get? replicaCount Shelf.holds
  rw [List.findSome?_isSome_iff, List.countP_pos_iff]

theorem replicaCount_pos_of_holder {key : VersionKey} {value : List UInt8} {peer : Peer}
    (holder : peer ∈ cluster.holders key value) : 0 < cluster.replicaCount key := by
  obtain ⟨replica, kept, _⟩ := List.mem_map.mp holder
  obtain ⟨present, held⟩ := List.mem_filter.mp kept
  unfold replicaCount Shelf.holds
  rw [List.countP_pos_iff]
  refine ⟨replica, present, ?_⟩
  rw [of_decide_eq_true held]
  rfl

theorem length_responsible (location : String) :
    (cluster.responsible location).length = min cluster.factor cluster.peers.length :=
  Placement.length_selectBy _ _ _

theorem Placed.replicaCount_le (placed : cluster.Placed) (key : VersionKey) :
    cluster.replicaCount key ≤ min cluster.factor cluster.peers.length := by
  let holding := (cluster.replicas.filter fun replica => replica.shelf.holds key).map Replica.peer
  have counted : cluster.replicaCount key = holding.length := by
    unfold replicaCount
    rw [List.length_map, List.countP_eq_length_filter]
  have distinct : holding.Nodup := cluster.distinct.sublist (List.filter_sublist.map Replica.peer)
  have responsible : holding ⊆ cluster.responsible key.location := by
    intro peer present
    obtain ⟨replica, kept, rfl⟩ := List.mem_map.mp present
    obtain ⟨among, holds⟩ := List.mem_filter.mp kept
    exact everywhere_iff.mp placed replica among key holds
  rw [counted, ← cluster.length_responsible key.location]
  exact distinct.length_le_of_subset responsible

theorem Only.get?_of_holder {key : VersionKey} {value : List UInt8} {peer : Peer}
    (only : cluster.Only key value) (holder : peer ∈ cluster.holders key value) :
    cluster.get? key = some value := by
  have each := everywhere_iff.mp only
  obtain ⟨replica, kept, _⟩ := List.mem_map.mp holder
  obtain ⟨present, holds⟩ := List.mem_filter.mp kept
  have found : cluster.get? key ≠ none := by
    intro missing
    unfold Cluster.get? at missing
    rw [List.findSome?_eq_none_iff] at missing
    rw [decide_eq_true_iff, missing replica present] at holds
    cases holds
  obtain ⟨content, got⟩ := Option.ne_none_iff_exists'.mp found
  rw [got]
  unfold Cluster.get? at got
  obtain ⟨first, among, has⟩ := List.exists_of_findSome?_eq_some got
  rcases each first among with none | some
  · rw [none] at has
    cases has
  · exact has.symm.trans some

def Online (cluster : Cluster) (location : String) : Prop :=
  ∀ replica, replica ∈ cluster.replicas → replica.peer ∈ cluster.responsible location →
    replica.behavior ≠ .offline

instance (cluster : Cluster) (location : String) : Decidable (cluster.Online location) :=
  inferInstanceAs (Decidable (∀ replica, replica ∈ cluster.replicas → _ → _))

/-- A removal that every responsible peer applies leaves the version with none. -/
theorem Placed.absent_of_removed (placed : cluster.Placed) {response : Response}
    (removed : (cluster.complete .remove request).1 = .ok response)
    (online : cluster.Online request.location) :
    (cluster.complete .remove request).2.Absent request.versionKey := by
  have replicas := cluster.replicas_complete_ok .remove request removed
  unfold Absent
  rw [everywhere_iff, replicas]
  intro replica present
  obtain ⟨old, among, rfl⟩ := List.mem_map.mp present
  split
  · next chosen =>
      change (old.remove request.versionKey).2.shelf.get? request.versionKey = none
      rw [old.remove_shelf, if_neg (online old among chosen), Shelf.get?_erase, if_pos rfl]
  · next other =>
      have unheld := fun held => other (everywhere_iff.mp placed old among request.versionKey held)
      unfold Shelf.holds at unheld
      exact Option.not_isSome_iff_eq_none.mp unheld

end Cluster
end Quorate.Store
