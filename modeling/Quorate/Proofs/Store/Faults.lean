import Quorate.Proofs.Placement
import Quorate.Proofs.Store.Contents

/-!
Behaviours given to several peers, one after another. Where the peers are distinct each gets its
own, whatever the order, and how many of them behave in some way is read off the list of behaviours
alone.
-/

namespace Quorate.Store.Cluster

variable (cluster : Cluster)

def setBehaviors (faults : List (Peer × Behavior)) : Cluster :=
  faults.foldl (fun cluster fault => cluster.setBehavior fault.1 fault.2) cluster

theorem profile_setBehavior (peer : Peer) (behavior : Behavior) :
    (cluster.setBehavior peer behavior).profile =
      cluster.profile.map fun entry =>
        (entry.1, if entry.1 = peer then behavior else entry.2) := by
  have distinct := cluster.distinct
  unfold profile setBehavior
  dsimp only
  generalize cluster.replicas = replicas at distinct ⊢
  induction replicas with
  | nil => rfl
  | cons replica rest ih =>
      rw [List.map_cons, List.nodup_cons] at distinct
      unfold changeFirst
      by_cases same : replica.peer = peer
      · have others : ∀ other, other ∈ rest → other.peer ≠ peer := by
          intro other among shared
          apply distinct.1
          rw [same, ← shared]
          exact List.mem_map_of_mem among
        have kept : rest.map (fun replica => (replica.peer, replica.behavior)) =
            (rest.map fun replica => (replica.peer, replica.behavior)).map fun entry =>
              (entry.1, if entry.1 = peer then behavior else entry.2) := by
          rw [List.map_map]
          apply List.map_congr_left
          intro other among
          simp [others other among]
        simp only [same, decide_true, if_true, List.map_cons]
        rw [← kept]
      · simp only [same, decide_false, Bool.false_eq_true, if_false, List.map_cons]
        rw [ih distinct.2]

variable (faults : List (Peer × Behavior))

theorem setBehaviors_settings :
    let after := cluster.setBehaviors faults
    after.shelves = cluster.shelves ∧ after.factor = cluster.factor ∧
      after.rejecting = cluster.rejecting ∧ after.failingPuts = cluster.failingPuts ∧
      after.failingRemovals = cluster.failingRemovals ∧ after.puts = cluster.puts ∧
      after.removals = cluster.removals := by
  induction faults generalizing cluster with
  | nil => exact ⟨rfl, rfl, rfl, rfl, rfl, rfl, rfl⟩
  | cons fault rest ih =>
      obtain ⟨shelves, others⟩ := ih (cluster.setBehavior fault.1 fault.2)
      exact ⟨shelves.trans (cluster.shelves_setBehavior fault.1 fault.2), others⟩

private theorem profile_setBehaviors (distinct : (faults.map Prod.fst).Nodup) :
    (cluster.setBehaviors faults).profile =
      cluster.profile.map fun entry =>
        (entry.1, (faults.lookup entry.1).getD entry.2) := by
  induction faults generalizing cluster with
  | nil =>
      simp only [List.lookup_nil, Option.getD_none, Prod.mk.eta, List.map_id']
      rfl
  | cons fault rest ih =>
      obtain ⟨peer, behavior⟩ := fault
      rw [List.map_cons, List.nodup_cons] at distinct
      change ((cluster.setBehavior peer behavior).setBehaviors rest).profile = _
      rw [ih _ distinct.2, profile_setBehavior, List.map_map]
      apply List.map_congr_left
      intro entry _present
      by_cases same : entry.1 = peer
      · have once : rest.lookup peer = none := by
          rw [List.lookup_eq_none_iff]
          intro other among
          rw [bne_iff_ne]
          intro shared
          exact distinct.1 (List.mem_map.mpr ⟨other, among, shared.symm⟩)
        simp [same, once]
      · have other : (entry.1 == peer) = false := beq_eq_false_iff_ne.mpr same
        simp [same, other, List.lookup_cons]

theorem responsible_subset (location : String) :
    cluster.responsible location ⊆ cluster.peers := by
  intro peer chosen
  exact (Placement.mem_rankBy _ _).mp (List.mem_of_mem_take chosen)

theorem responsible_nodup (location : String) : (cluster.responsible location).Nodup := by
  have ranked : (Placement.rank location cluster.peers).Nodup :=
    (Placement.rankBy_perm _ _).nodup_iff.mpr cluster.distinct
  exact ranked.sublist (List.take_sublist _ _)

/-! ### Peers that accept otherwise -/

/-- The behaviour of a peer that accepts unless it is among those that get another one. -/
def assigned (faults : List (Peer × Behavior)) (peer : Peer) : Behavior :=
  (faults.lookup peer).getD .accept

private theorem map_assigned (targets : List Peer) (distinct : targets.Nodup)
    (behaviors : List Behavior) :
    targets.map (assigned (targets.zip behaviors)) =
      behaviors.take targets.length ++
        List.replicate (targets.length - behaviors.length) .accept := by
  induction targets generalizing behaviors with
  | nil => simp
  | cons peer rest ih =>
      rw [List.nodup_cons] at distinct
      cases behaviors with
      | nil =>
          have none : assigned ((peer :: rest).zip []) = fun _ => Behavior.accept := rfl
          rw [none]
          simp [List.replicate_succ]
      | cons behavior behaviors =>
          have first : assigned ((peer :: rest).zip (behavior :: behaviors)) peer = behavior := by
            simp [assigned]
          have others : rest.map (assigned ((peer :: rest).zip (behavior :: behaviors))) =
              rest.map (assigned (rest.zip behaviors)) := by
            apply List.map_congr_left
            intro other among
            have different : other ≠ peer := fun same => distinct.1 (same ▸ among)
            have miss : (other == peer) = false := beq_eq_false_iff_ne.mpr different
            simp [assigned, List.lookup_cons, miss]
          rw [List.map_cons, first, others, ih distinct.2 behaviors]
          simp

variable {cluster}

/-- Among the targets it is the list of behaviours that counts, filled up with accepting peers. -/
theorem countP_setBehaviors
    (accepting : ∀ replica, replica ∈ cluster.replicas → replica.behavior = .accept)
    (targets : List Peer) (distinct : targets.Nodup) (present : targets ⊆ cluster.peers)
    (behaviors : List Behavior) (counted : Behavior → Bool) :
    (cluster.setBehaviors (targets.zip behaviors)).replicas.countP (fun replica =>
        decide (replica.peer ∈ targets) && counted replica.behavior) =
      (behaviors.take targets.length ++
        List.replicate (targets.length - behaviors.length) Behavior.accept).countP counted := by
  have once : ((targets.zip behaviors).map Prod.fst).Nodup := by
    rw [List.zip_eq_zip_take_min, List.map_fst_zip (by simp)]
    exact distinct.sublist (List.take_sublist _ _)
  have chosen : (cluster.peers.filter (· ∈ targets)).Perm targets := by
    have peers : cluster.peers.Nodup := cluster.distinct
    rw [List.perm_ext_iff_of_nodup (peers.filter _) distinct]
    intro peer
    simp only [List.mem_filter, decide_eq_true_eq]
    exact ⟨And.right, fun among => ⟨present among, among⟩⟩
  calc (cluster.setBehaviors (targets.zip behaviors)).replicas.countP (fun replica =>
        decide (replica.peer ∈ targets) && counted replica.behavior)
      = cluster.peers.countP (fun peer =>
          decide (peer ∈ targets) && counted (assigned (targets.zip behaviors) peer)) := by
        rw [← countP_profile _ fun entry => decide (entry.1 ∈ targets) && counted entry.2,
          profile_setBehaviors cluster _ once, List.countP_map, countP_profile]
        unfold peers
        rw [List.countP_map]
        apply List.countP_congr
        intro replica among
        simp only [Function.comp_apply, accepting replica among, assigned]
    _ = (cluster.peers.filter (· ∈ targets)).countP
          (counted ∘ assigned (targets.zip behaviors)) := by
        rw [List.countP_filter]
        apply List.countP_congr
        intro peer _among
        simp only [Function.comp_apply, Bool.and_comm]
    _ = (targets.map (assigned (targets.zip behaviors))).countP counted := by
        rw [chosen.countP_eq, List.countP_map]
    _ = _ := by rw [map_assigned targets distinct behaviors]

end Quorate.Store.Cluster
