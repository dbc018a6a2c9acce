import Quorate.Proofs.Process.Undertaking

/-!
Executions and rollbacks that are never abandoned. An execution comes to its end, and reports the
verdict of its write. A rollback makes no call if nothing was executed since the last one, and a
single call otherwise, a removal; it takes everything with it that the executions have left behind.
-/

namespace Quorate.Process.Undertaking

open Store Workload

variable {request : Request} {budget : UInt32} {undertaking after : Undertaking} {move : Move}

/-! ### Writes -/

/-- Every write that was started has come to its end, but for the one that is waited for. -/
def Settled (undertaking : Undertaking) : Prop :=
  ∀ write, write < undertaking.started → undertaking.stage ≠ .executing write →
    (undertaking.workload.writes write).write.call? = none

private theorem Settled.of_idle (settled : undertaking.Settled) (idle : undertaking.stage = .idle)
    (write : Nat) (before : write < undertaking.started) :
    (undertaking.workload.writes write).write.call? = none :=
  settled write before (by rw [idle]; nofun)

private theorem Settled.step (settled : undertaking.Settled)
    (sound : undertaking.Sound request budget) (patient : move ≠ .giveUp)
    (steps : undertaking.StepsTo move after) : after.Settled := by
  cases steps with
  | stays => exact settled
  | elsewhere permitted =>
      intro write before other
      exact run_no_call [_] undertaking.workload write (settled write before other)
  | refused idle invalid => exact fun write before _ => settled.of_idle idle write before
  | starts idle valid =>
      intro write before other
      have earlier : write ≠ undertaking.started := fun same => other (congrArg _ same.symm)
      have within : write < undertaking.started + 1 := before
      exact settled.of_idle idle write (by omega)
  | @concludes number accepted notices executing awaited =>
      intro write before _
      by_cases own : write = number
      · subst own
        have told := (sound.tended.alive write).awaited?_eq
        rw [awaited] at told
        exact (sound.tended.alive write).call?_of_verdict? told.symm
      · refine settled write before ?_
        rw [executing]
        exact fun same => own (Stage.executing.inj same).symm
  | givesUp executing => exact absurd rfl patient
  | spares idle unmarked => exact fun write before _ => settled.of_idle idle write before
  | fails idle executed rejecting => exact fun write before _ => settled.of_idle idle write before
  | removes idle executed accepting =>
      exact fun write before _ => settled.of_idle idle write before
  | finishes removing =>
      exact fun write before _ => settled write before (by rw [removing]; nofun)

private theorem Settled.run (settled : undertaking.Settled)
    (sound : undertaking.Sound request budget) (moves : List Move) (patient : .giveUp ∉ moves) :
    (undertaking.run moves).Settled := by
  refine (undertaking.run_invariant
    (fun undertaking => undertaking.Sound request budget ∧ undertaking.Settled)
    moves ?_ ⟨sound, settled⟩).2
  rintro before move after among steps ⟨sound, settled⟩
  have never : move ≠ .giveUp := fun same => patient (same ▸ among)
  exact ⟨sound.step steps, settled.step sound never steps⟩

/-! ### Waits -/

private theorem run_elsewhere (moves : List (Workload.Move Nat)) (undertaking : Undertaking) :
    undertaking.run (moves.map .elsewhere) =
      { undertaking with
        workload := undertaking.workload.run (moves.filter (permits undertaking.started)) } := by
  induction moves generalizing undertaking with
  | nil => rfl
  | cons move rest ih =>
      change (undertaking.step (.elsewhere move)).run (rest.map .elsewhere) = _
      rw [undertaking.elsewhere_eq, ih]
      unfold elsewhere
      by_cases permitted : permits undertaking.started move = true
      · rw [if_pos permitted, List.filter_cons_of_pos permitted]
        rfl
      · rw [if_neg permitted, List.filter_cons_of_neg permitted]

/-- The write that is waited for comes to its verdict, and then the wait ends. -/
theorem Sound.concludes (sound : undertaking.Sound request budget)
    (bounded : budget.toNat + 1 < UInt32.size) {write : Nat}
    (executing : undertaking.stage = .executing write) (others : List (Workload.Move Nat))
    (enough : 4 * (budget.toNat + 1) ≤ others.count (.advance write)) :
    let waiting := undertaking.run (others.map .elsewhere)
    ∃ accepted, (waiting.workload.writes write).write.verdict? = some accepted ∧
      (waiting.step .conclude).stage = .idle ∧
      (waiting.step .conclude).history =
        undertaking.history ++ [.executed (some write) (undertaking.put.outcome accepted)] := by
  intro waiting
  let moves := others.filter (permits undertaking.started)
  have same : waiting = { undertaking with workload := undertaking.workload.run moves } :=
    undertaking.run_elsewhere others
  have permitted : permits undertaking.started (.advance write) = true :=
    decide_eq_true (sound.current write executing)
  have present : .lose write ∉ moves := by
    intro among
    cases (List.mem_filter.mp among).2
  have idle : (waiting.workload.writes write).write.call? = none := by
    rw [same]
    apply run_idle bounded write moves present undertaking.workload (sound.tended.alive write)
    rw [List.count_filter permitted]
    exact enough
  have waits : waiting.stage = .executing write := by
    rw [same]
    exact executing
  obtain ⟨accepted, notices, decided, awaited⟩ :=
    ((sound.run (others.map .elsewhere)).tended.alive write).exists_verdict idle
  refine ⟨accepted, decided, ?_⟩
  have ends : waiting.step .conclude =
      waiting.ending (.executed (some write) (waiting.put.outcome accepted)) notices := by
    rw [waiting.conclude_eq waits]
    unfold conclude
    rw [awaited]
  rw [ends, same]
  exact ⟨rfl, rfl⟩

/-! ### Removals -/

private theorem absent_of_quietly (settled : undertaking.Settled) (resting : undertaking.Resting)
    {key : VersionKey} (absent : undertaking.workload.cluster.Absent key) {later : List Move}
    (quietly : Quietly (OnlyByWrites .put key) later undertaking) :
    (undertaking.run later).workload.cluster.Absent key := by
  refine (quietly.invariant
    (fun workload => workload.cluster.Absent key ∧
      ∀ write, write < undertaking.started → (workload.writes write).write.call? = none)
    ?_ resting rfl ⟨absent, settled.of_idle resting.idle⟩).1
  rintro workload move permitted only ⟨absent, idle⟩
  refine ⟨step_absent ?_ absent, fun write before => run_no_call [move] workload write
    (idle write before)⟩
  intro asked applies same
  obtain ⟨write, rfl⟩ := only asked applies same
  have wanted := applies.own.1
  rw [idle write (of_decide_eq_true permitted)] at wanted
  cases wanted

/-- What a maintainer may rely on while no execution is abandoned. -/
structure Disciplined (request : Request) (budget : UInt32) (undertaking : Undertaking) :
    Prop where
  /-- Executions have reported what their writes have come to. -/
  reported : ∀ write result, .executed write result ∈ undertaking.history →
    ∃ number accepted, write = some number ∧
      (undertaking.workload.writes number).write.verdict? = some accepted ∧
      (result = .ok () ↔ accepted = true) ∧
      (result = .error (.putFailed request.text) ↔ accepted = false)
  undone : Undone undertaking.history
  starts : undertaking.stage = .idle →
    (undertaking.step .execute).stage = .executing undertaking.started ∧
    (undertaking.step .execute).workload = undertaking.workload ∧
    undertaking.workload.writes undertaking.started = .of request budget
  concludes : ∀ write (others : List (Workload.Move Nat)), undertaking.stage = .executing write →
    4 * (budget.toNat + 1) ≤ others.count (.advance write) →
      let waiting := undertaking.run (others.map .elsewhere)
      ∃ accepted, (waiting.workload.writes write).write.verdict? = some accepted ∧
        (waiting.step .conclude).stage = .idle ∧
        (waiting.step .conclude).history =
          undertaking.history ++ [.executed (some write) (undertaking.put.outcome accepted)]
  /-- A rollback without anything to undo changes nothing. -/
  spares : undertaking.stage = .idle → outstanding undertaking.history = [] →
    undertaking.step .rollback =
      { undertaking with history := undertaking.history ++ [.rolledBack [] (.ok ())] }
  /-- The store does not take the removal, and nothing happens to it. -/
  fails : undertaking.stage = .idle → outstanding undertaking.history ≠ [] →
    undertaking.workload.cluster.rejecting = true →
      (undertaking.step .rollback).stage = .idle ∧
      (undertaking.step .rollback).workload = undertaking.workload ∧
      (undertaking.step .rollback).history =
        undertaking.history ++ [.rolledBack [.remove] (.ok ())]
  removes : undertaking.stage = .idle → outstanding undertaking.history ≠ [] →
    undertaking.workload.cluster.rejecting = false →
      (undertaking.step .rollback).stage = .removing ∧
      (undertaking.step .rollback).workload =
        { undertaking.workload with cluster := undertaking.workload.cluster.taking .remove }
  finishes : undertaking.stage = .removing →
    (undertaking.step .finish).stage = .idle ∧
    (undertaking.step .finish).workload =
      { undertaking.workload with
        cluster := (undertaking.workload.cluster.complete .remove request).2 } ∧
    (undertaking.step .finish).history =
      undertaking.history ++ [.rolledBack [.remove] (.ok ())]
  /-- A removal that every responsible peer applies leaves the version with none. -/
  clears : undertaking.stage = .removing →
    ∀ response, (undertaking.workload.cluster.complete .remove request).1 = .ok response →
      undertaking.workload.cluster.Online request.location →
      ∀ later, Quietly (OnlyByWrites .put request.versionKey) later (undertaking.step .finish) →
        let final := ((undertaking.step .finish).run later).workload.cluster
        final.replicaCount request.versionKey = 0 ∧ final.get? request.versionKey = none

private theorem Sound.disciplined (sound : undertaking.Sound request budget)
    (settled : undertaking.Settled) (valid : request.check = .ok ())
    (bounded : budget.toNat + 1 < UInt32.size) : undertaking.Disciplined request budget where
  reported := by
    intro write result told
    cases sound.reported write result told with
    | invalid checked =>
        rw [valid] at checked
        cases checked
    | @verdict number accepted decided =>
        refine ⟨number, accepted, rfl, decided, ?_⟩
        cases accepted with
        | true => exact ⟨iff_of_true rfl rfl, iff_of_false nofun nofun⟩
        | false => exact ⟨iff_of_false nofun nofun, iff_of_true rfl rfl⟩
  undone := sound.undone
  starts := by
    intro idle
    rw [← sound.request_eq] at valid
    rw [undertaking.execute_eq idle]
    unfold execute
    rw [valid]
    exact ⟨rfl, rfl, sound.fresh _ (Nat.le_refl _)⟩
  concludes := fun _ others executing enough =>
    sound.concludes bounded executing others enough
  spares := by
    intro idle none
    have unmarked : undertaking.put.executed = false :=
      Bool.eq_false_iff.mpr fun mark => (sound.marked.of_idle idle).mp mark none
    rw [undertaking.rollback_eq idle, undertaking.rollback_of_unmarked unmarked]
    unfold ending
    rw [List.append_nil, idle]
  fails := by
    intro idle owing rejecting
    rw [undertaking.rollback_eq idle,
      undertaking.rollback_of_rejecting ((sound.marked.of_idle idle).mpr owing) rejecting]
    exact ⟨rfl, rfl, rfl⟩
  removes := by
    intro idle owing accepting
    rw [undertaking.rollback_eq idle,
      undertaking.rollback_of_accepting ((sound.marked.of_idle idle).mpr owing) accepting]
    exact ⟨rfl, rfl⟩
  finishes := by
    intro removing
    rw [undertaking.finish_eq removing, ← sound.request_eq]
    exact ⟨rfl, rfl, rfl⟩
  clears := by
    intro removing response removed online later quietly final
    obtain ⟨resting, absent⟩ := sound.finish_absent removing removed online
    have patient : Move.finish ≠ .giveUp := nofun
    have settles := settled.step sound patient (undertaking.stepsTo_step .finish)
    have still := absent_of_quietly settles resting absent quietly
    exact ⟨Cluster.absent_iff_replicaCount.mp still, still.get?⟩

private theorem Settled.of (put : PutStep) (cluster : Cluster) : (of put cluster).Settled := nofun

/-- On a new store, whatever else happens there: executions and rollbacks that are run to their ends
keep their discipline, in any order and number. -/
theorem run_disciplined (request : Request) (budget : UInt32) (metered : Bool)
    (count factor : Nat) (latency : Duration) (moves : List Move)
    (valid : request.check = .ok ()) (bounded : budget.toNat + 1 < UInt32.size)
    (patient : .giveUp ∉ moves) :
    ((of { request, budget, metered } (Cluster.create count factor latency)).run
      moves).Disciplined request budget := by
  have sound := Sound.of request budget metered (Cluster.Placed.create count factor latency)
  exact (sound.run moves).disciplined ((Settled.of _ _).run sound moves patient) valid bounded

/-- The first execution stores the version. The second one is denied, and fails to take back what
it finds there. -/
def deniedAgain : List Move :=
  [.execute, .elsewhere (.advance 0), .elsewhere (.advance 0), .conclude,
    .elsewhere (.behave ⟨"peer-1"⟩ .deny), .elsewhere (.failRemovals true),
    .execute, .elsewhere (.advance 1), .elsewhere (.advance 1), .elsewhere (.advance 1),
    .elsewhere (.advance 1), .conclude,
    .elsewhere (.failRemovals false), .rollback]

/-- The rollback that follows leaves nothing, nor does another one bring anything back. -/
theorem run_disciplined_deniedAgain :
    let request : Request := { location := "loc", content := "content", value := [1] }
    let other : Request := { request with version := 1 }
    let before := (of { request, budget := 0 } (Cluster.create 1 1 ⟨0⟩)).run deniedAgain
    let later : List Move :=
      [.elsewhere (.submit .put other), .rollback, .elsewhere (.complete 0)]
    let after := before.step .finish
    request.check = .ok () ∧ before.stage = .removing ∧
      (before.workload.writes 0).write.verdict? = some true ∧
      (before.workload.writes 1).write.verdict? = some false ∧
      before.workload.cluster.replicaCount request.versionKey = 1 ∧
      Quietly (OnlyByWrites .put request.versionKey) later after ∧
      (after.run later).workload.cluster.replicaCount request.versionKey = 0 := by
  intro request other before later after
  have valid : request.check = .ok () := by decide +kernel
  have disciplined : before.Disciplined request 0 :=
    run_disciplined request 0 true 1 1 ⟨0⟩ deniedAgain valid (by decide) (by decide)
  have removing : before.stage = .removing := by decide +kernel
  obtain ⟨response, removed⟩ :=
    before.workload.cluster.exists_response_remove request (by decide +kernel)
  have online : before.workload.cluster.Online request.location := by decide +kernel
  have quietly : Quietly (OnlyByWrites .put request.versionKey) later after := by
    refine ⟨nofun, ?_, nofun, nofun, nofun, ?_, trivial⟩
    · rintro elsewhere ⟨rfl⟩ asked ⟨none, _⟩
      cases none
    · rintro elsewhere ⟨rfl⟩ asked ⟨due, _⟩ same
      have queued : ((after.step (.elsewhere (.submit .put other))).step .rollback).workload.due?
          (.complete 0) = some (.put, other) := by
        decide +kernel
      rw [queued] at due
      cases due
      exact absurd same (by decide)
  exact ⟨valid, removing, by decide +kernel, by decide +kernel, by decide +kernel, quietly,
    (disciplined.clears removing response removed online later quietly).1⟩

end Quorate.Process.Undertaking
