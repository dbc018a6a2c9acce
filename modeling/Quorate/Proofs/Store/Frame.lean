import Quorate.Proofs.Store.Contents

/-!
What the completion of a call leaves alone: every other version, every peer that is not responsible
for the location, and everything at all but the number of failures to come if the call fails.
-/

namespace Quorate.Store

private theorem Replica.get?_applied_of_ne (replica : Replica) (request : Request) (call : Call)
    {key : VersionKey} (other : key ≠ request.versionKey) :
    (replica.applied request call).shelf.get? key = replica.shelf.get? key := by
  cases call with
  | put =>
      change (replica.put request).2.shelf.get? key = _
      rw [replica.put_shelf]
      split
      · rw [Shelf.get?_insert, if_neg other]
      · rfl
  | remove =>
      change (replica.remove request.versionKey).2.shelf.get? key = _
      rw [replica.remove_shelf]
      split
      · rfl
      · rw [Shelf.get?_erase, if_neg other]

namespace Cluster

def replica? (cluster : Cluster) (peer : Peer) : Option Replica :=
  cluster.replicas.find? fun replica => replica.peer = peer

def content? (cluster : Cluster) (peer : Peer) (key : VersionKey) : Option (List UInt8) :=
  (cluster.replica? peer).bind fun replica => replica.shelf.get? key

variable {cluster after : Cluster} (peer : Peer) (key : VersionKey)

private theorem content?_eq_shelves :
    cluster.content? peer key =
      (cluster.shelves.find? fun entry => entry.1 = peer).bind fun entry => entry.2.get? key := by
  unfold content? replica? shelves
  rw [List.find?_map, Option.bind_map]
  rfl

theorem content?_congr (same : after.shelves = cluster.shelves) :
    after.content? peer key = cluster.content? peer key := by
  rw [content?_eq_shelves, content?_eq_shelves, same]

private theorem replica?_of_map (change : Replica → Replica)
    (keeps : ∀ replica, (change replica).peer = replica.peer)
    (changed : after.replicas = cluster.replicas.map change) :
    after.replica? peer = (cluster.replica? peer).map change := by
  have named : ((fun replica : Replica => decide (replica.peer = peer)) ∘ change) =
      fun replica => decide (replica.peer = peer) := by
    funext replica
    simp only [Function.comp_apply, keeps]
  unfold replica?
  rw [changed, List.find?_map, named]

theorem peer_of_replica? {replica : Replica} (found : cluster.replica? peer = some replica) :
    replica.peer = peer := by
  unfold replica? at found
  have named := List.find?_some found
  exact of_decide_eq_true named

theorem replica?_of_mem {replica : Replica} (present : replica ∈ cluster.replicas) :
    cluster.replica? replica.peer = some replica := by
  unfold replica?
  cases found : cluster.replicas.find? fun other => other.peer = replica.peer with
  | none =>
      have other := List.find?_eq_none.mp found replica present
      exact absurd (decide_eq_true rfl) other
  | some other =>
      have named := peer_of_replica? replica.peer found
      exact congrArg some
        (List.inj_on_of_nodup_map cluster.distinct (List.mem_of_find?_eq_some found) present named)

variable {key} in
theorem replicaCount_pos_iff :
    0 < cluster.replicaCount key ↔ ∃ peer, (cluster.content? peer key).isSome = true := by
  unfold replicaCount Shelf.holds content?
  rw [List.countP_pos_iff]
  constructor
  · rintro ⟨replica, present, held⟩
    refine ⟨replica.peer, ?_⟩
    rw [replica?_of_mem present]
    exact held
  · rintro ⟨peer, held⟩
    obtain ⟨content, got⟩ := Option.isSome_iff_exists.mp held
    obtain ⟨replica, found, has⟩ := Option.bind_eq_some_iff.mp got
    refine ⟨replica, List.mem_of_find?_eq_some found, ?_⟩
    rw [has]
    rfl

variable (cluster) (call : Call) (request : Request)

theorem replicas_complete_error {failure : Failure}
    (failed : (cluster.complete call request).1 = .error failure) :
    (cluster.complete call request).2.replicas = cluster.replicas := by
  rcases cluster.complete_cases call request with ⟨_, same⟩ | ⟨⟨response, completed⟩, _⟩
  · exact same
  · rw [failed] at completed
    cases completed

theorem replica?_complete_ok {response : Response}
    (completed : (cluster.complete call request).1 = .ok response) :
    (cluster.complete call request).2.replica? peer =
      if peer ∈ cluster.responsible request.location
      then (cluster.replica? peer).map (Replica.applied · request call)
      else cluster.replica? peer := by
  have keeps : ∀ replica : Replica,
      (if replica.peer ∈ cluster.responsible request.location
        then replica.applied request call else replica).peer = replica.peer := by
    intro replica
    split
    · exact replica.applied_peer request call
    · rfl
  rw [replica?_of_map peer _ keeps (cluster.replicas_complete_ok call request completed)]
  cases found : cluster.replica? peer with
  | none => exact (ite_self none).symm
  | some replica =>
      simp only [Option.map_some, peer_of_replica? peer found]
      split <;> rfl

/-- A call that fails leaves a replica alone, and any other call reaches it if it is responsible. -/
theorem replica?_complete_cases :
    (cluster.complete call request).2.replica? peer = cluster.replica? peer ∨
      peer ∈ cluster.responsible request.location ∧
        (cluster.complete call request).2.replica? peer =
          (cluster.replica? peer).map (Replica.applied · request call) := by
  rcases cluster.complete_cases call request with ⟨_, same⟩ | ⟨⟨response, completed⟩, _⟩
  · left
    unfold replica?
    rw [same]
  · rw [cluster.replica?_complete_ok peer call request completed]
    by_cases chosen : peer ∈ cluster.responsible request.location
    · exact .inr ⟨chosen, if_pos chosen⟩
    · exact .inl (if_neg chosen)

theorem replica?_complete_of_not_mem (other : peer ∉ cluster.responsible request.location) :
    (cluster.complete call request).2.replica? peer = cluster.replica? peer := by
  rcases cluster.replica?_complete_cases peer call request with same | ⟨chosen, _⟩
  · exact same
  · exact absurd chosen other

theorem content?_complete_of_ne (other : key ≠ request.versionKey) :
    (cluster.complete call request).2.content? peer key = cluster.content? peer key := by
  unfold content?
  rcases cluster.replica?_complete_cases peer call request with same | ⟨_, reached⟩
  · rw [same]
  · rw [reached, Option.bind_map]
    congr 1
    funext replica
    exact replica.get?_applied_of_ne request call other

theorem complete_put_of_error {failure : Failure}
    (failed : (cluster.complete .put request).1 = .error failure) :
    0 < cluster.failingPuts ∧
      (cluster.complete .put request).2 =
        { cluster with failingPuts := cluster.failingPuts - 1 } := by
  change (cluster.completePut request).1 = .error failure at failed
  change 0 < cluster.failingPuts ∧ (cluster.completePut request).2 = _
  unfold completePut at failed ⊢
  cases failing : cluster.failingPuts with
  | zero =>
      rw [failing] at failed
      cases failed
  | succ left => exact ⟨Nat.succ_pos left, rfl⟩

theorem complete_remove_of_error {failure : Failure}
    (failed : (cluster.complete .remove request).1 = .error failure) :
    (cluster.complete .remove request).2 = cluster := by
  change (cluster.completeRemoval request).1 = .error failure at failed
  change (cluster.completeRemoval request).2 = cluster
  unfold completeRemoval at failed ⊢
  split
  · rfl
  · next working =>
      rw [if_neg working] at failed
      cases failed

end Cluster
end Quorate.Store
