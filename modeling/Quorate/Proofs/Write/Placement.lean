import Quorate.Proofs.Write.Workload

/-!
Where versions are, whatever is done to a new store and in whatever order. The layout of the store
never changes, so the same peers are responsible for a location on every put, on every removal and
for everybody who asks; and only these ever hold a version.
-/

namespace Quorate

open Store

private theorem Store.Cluster.length_peers_create (count factor : Nat) (latency : Duration) :
    (Cluster.create count factor latency).peers.length = count := by
  unfold Cluster.peers Cluster.create Cluster.peerNames
  simp only [List.length_map, List.length_range]

namespace Workload

variable {ι : Type} [DecidableEq ι]

theorem run_layout (moves : List (Move ι)) (workload : Workload ι) :
    (workload.run moves).cluster.peers = workload.cluster.peers ∧
      (workload.run moves).cluster.factor = workload.cluster.factor :=
  run_invariant
    (fun after => after.cluster.peers = workload.cluster.peers ∧
      after.cluster.factor = workload.cluster.factor)
    (fun after move same =>
      ⟨(after.step_layout move).1.trans same.1, (after.step_layout move).2.trans same.2⟩)
    moves workload ⟨rfl, rfl⟩

/-- Only the peers responsible for its location hold a version. So it has no more replicas than
there are peers, nor more than the factor says, and its content can be got just if it has any. -/
theorem run_placement (count factor : Nat) (latency : Duration) (requests : ι → Request)
    (budgets : ι → UInt32) (moves : List (Move ι)) :
    let first := Cluster.create count factor latency
    let cluster := ((start first requests budgets).run moves).cluster
    (∀ location, cluster.responsible location = first.responsible location) ∧
      (∀ replica, replica ∈ cluster.replicas → ∀ key, replica.shelf.holds key = true →
        replica.peer ∈ cluster.responsible key.location) ∧
      (∀ key, cluster.replicaCount key ≤ min count factor) ∧
      ∀ key, (cluster.get? key).isSome = true ↔ 0 < cluster.replicaCount key := by
  intro first cluster
  obtain ⟨peers, factors⟩ : cluster.peers = first.peers ∧ cluster.factor = first.factor :=
    run_layout moves (start first requests budgets)
  have reachable : Reachable ((start first requests budgets).run moves) :=
    ⟨count, factor, latency, requests, budgets, moves, rfl⟩
  have placed : cluster.Placed := reachable.placed
  refine ⟨?_, Cluster.everywhere_iff.mp placed, ?_, cluster.get?_isSome_iff⟩
  · intro location
    exact Cluster.responsible_congr location peers factors
  · intro key
    have most := placed.replicaCount_le key
    rw [peers, factors, Cluster.length_peers_create, Nat.min_comm] at most
    exact most

/-- The first put of a write fails after it was taken, and while the second one is under way
somebody else puts another version. -/
def crossed : List (Move Unit) :=
  [.failNextPuts 1, .advance (), .advance (), .advance (), .advance (), .advance (),
    .submit .put { location := "loc", content := "content", version := 1 }, .complete 0,
    .advance ()]

theorem run_placement_crossed :
    let key : VersionKey := ⟨"loc", "content", 0⟩
    let requests : Unit → Request := fun _ => { location := "loc", content := "content" }
    let cluster := ((start (Cluster.create 1 2 ⟨0⟩) requests fun _ => 1).run crossed).cluster
    (∃ replica, replica ∈ cluster.replicas ∧ replica.shelf.holds key = true ∧
        replica.peer ∈ cluster.responsible "loc") ∧
      (cluster.get? key).isSome = true ∧ 0 < cluster.replicaCount key ∧
      cluster.replicaCount key ≤ 1 := by
  intro key requests cluster
  have placement := run_placement 1 2 ⟨0⟩ requests (fun _ => 1) crossed
  have held : ∃ replica, replica ∈ cluster.replicas ∧ replica.shelf.holds key = true := by
    decide +kernel
  have present : (cluster.get? key).isSome = true := by decide +kernel
  obtain ⟨_, placed, bounded, got⟩ := placement
  obtain ⟨replica, among, holds⟩ := held
  exact ⟨⟨replica, among, holds, placed replica among key holds⟩, present, (got key).mp present,
    bounded key⟩

end Workload
end Quorate
