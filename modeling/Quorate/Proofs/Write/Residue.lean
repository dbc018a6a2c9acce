import Quorate.Proofs.Write.Workload

/-!
What a failed write leaves behind: nothing, once its last removal has been applied by every peer
that may hold the version, whatever became of its earlier puts and removals.
-/

namespace Quorate.Workload

open Store

variable {ι : Type} [DecidableEq ι]

private theorem run_absent_of_decided {index : ι} {key : VersionKey} (moves : List (Move ι))
    (workload : Workload ι) (untouched : Along (PutOnlyBy index key) moves workload)
    (idle : (workload.writes index).write.call? = none) (absent : workload.cluster.Absent key) :
    (workload.run moves).cluster.Absent key := by
  refine (Along.invariant
    (fun workload => (workload.writes index).write.call? = none ∧ workload.cluster.Absent key)
    ?_ moves workload untouched ⟨idle, absent⟩).2
  rintro workload move putOnly ⟨idle, absent⟩
  refine ⟨run_no_call [move] workload index idle, step_absent ?_ absent⟩
  intro request applies same
  obtain rfl := putOnly request applies same
  have wanted := applies.own.1
  rw [idle] at wanted
  cases wanted

/-- A write fails, and its last removal is applied while no responsible peer is offline. Then no
peer at all holds the version, as long as nobody else puts it. -/
theorem failed_write_leaves_nothing {before : Workload ι} (reachable : before.Reachable)
    (index : ι) (later : List (Move ι)) :
    let request := (before.writes index).write.request
    let key := request.versionKey
    let after := before.step (.advance index)
    before.Applies (.advance index) .remove request →
      (∀ replica, replica ∈ before.cluster.replicas →
        replica.peer ∈ before.cluster.responsible request.location →
          replica.behavior ≠ .offline) →
      (after.writes index).write.verdict? = some false →
      Along (PutOnlyBy index key) later after →
        (after.run later).cluster.replicaCount key = 0 ∧
          (after.run later).cluster.get? key = none := by
  intro request key after removes online failed untouched
  obtain ⟨_response, removed⟩ := removes.2
  have absent : after.cluster.Absent key := by
    rw [removes.cluster]
    exact reachable.placed.absent_of_removed request removed online
  have idle := (reachable.run [.advance index]).final index false failed
  have still := run_absent_of_decided later after untouched idle absent
  exact ⟨Cluster.absent_iff_replicaCount.mp still, still.get?⟩

/-- Somebody else has stored the version, and the peer has denied the put of a write that may try
only once. The write is about to hear that the put has been taken back. -/
def deniedWrite : Workload Unit :=
  (start (Cluster.create 1 1 ⟨0⟩) (fun _ => { location := "loc", content := "content" })
    fun _ => 0).run
    [.submit .put { location := "loc", content := "content" }, .complete 0,
      .behave ⟨"peer-1"⟩ .deny, .advance (), .advance (), .advance ()]

/-- Afterwards somebody puts another version. -/
theorem failed_write_leaves_nothing_deniedWrite :
    let request : Request := { location := "loc", content := "content" }
    let key := request.versionKey
    let later : List (Move Unit) := [.submit .put { request with version := 1 }, .complete 0]
    let final := (deniedWrite.step (.advance ())).run later
    deniedWrite.cluster.replicaCount key = 1 ∧
      deniedWrite.Applies (.advance ()) .remove request ∧
      Along (PutOnlyBy () key) later (deniedWrite.step (.advance ())) ∧
      final.cluster.replicaCount key = 0 ∧ final.cluster.get? key = none := by
  intro request key later final
  have reachable : deniedWrite.Reachable := ⟨1, 1, ⟨0⟩, _, _, _, rfl⟩
  have own : (deniedWrite.writes ()).write.request = request := by decide +kernel
  have removes : deniedWrite.Applies (.advance ()) .remove request :=
    ⟨by decide +kernel, Cluster.exists_response_remove _ request (by decide +kernel)⟩
  have online : ∀ replica, replica ∈ deniedWrite.cluster.replicas →
      replica.peer ∈ deniedWrite.cluster.responsible request.location →
        replica.behavior ≠ .offline := by
    decide +kernel
  have failed :
      ((deniedWrite.step (.advance ())).writes ()).write.verdict? = some false := by
    decide +kernel
  have untouched : Along (PutOnlyBy () key) later (deniedWrite.step (.advance ())) := by
    refine ⟨?_, ?_, trivial⟩
    · rintro asked ⟨none, _⟩
      cases none
    · rintro asked ⟨due, _⟩ same
      have other : ((deniedWrite.step (.advance ())).step
          (.submit .put { request with version := 1 })).due? (.complete 0) =
            some (.put, { request with version := 1 }) := by
        decide +kernel
      rw [other] at due
      cases due
      exact absurd same (by decide)
  have left := failed_write_leaves_nothing reachable () later
  rw [own] at left
  exact ⟨by decide +kernel, removes, untouched, left removes online failed untouched⟩

end Quorate.Workload
