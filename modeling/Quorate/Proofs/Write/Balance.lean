import Quorate.Metering
import Quorate.Proofs.Write.Accounts
import Quorate.Proofs.Write.Independence

/-!
The balance of all writes that count on one board. The board is the sum of what the writes have
told, and since every write keeps its own accounts in balance, so does the board, at every point
of every run.
-/

namespace Quorate

open Store Workload

namespace Metering

variable {ι : Type} [DecidableEq ι]

private theorem setWrite_self (metering : Metering ι) (index : ι) (participant : Participant) :
    (metering.setWrite index participant).writes index = participant := if_pos rfl

private theorem setWrite_of_ne (metering : Metering ι) {index other : ι} (different : other ≠ index)
    (participant : Participant) :
    (metering.setWrite index participant).writes other = metering.writes other :=
  if_neg different

inductive StepsTo (metering : Metering ι) : Metering ι → Prop
  | still : StepsTo metering metering
  | told (index : ι) (write : Write) (underway : Bool) (notices : List Notice) (age : Duration)
      (accounted : (metering.writes index).Accounted →
        ((metering.writes index).telling write underway notices).Accounted) :
      StepsTo metering
        (metering.tell index
          { metering.writes index with write := write, underway := underway } notices age)
  | lost (index : ι) : StepsTo metering (metering.setWrite index (metering.writes index).lose)

private theorem stepsTo_step (metering : Metering ι) (move : Move ι) :
    metering.StepsTo (metering.step move) := by
  cases move with
  | issue index age =>
      change metering.StepsTo (metering.issue index age)
      unfold issue
      dsimp only
      split
      · exact .still
      · next call wanted =>
          split
          · exact .still
          · next resting =>
              exact .told index _ true _ age fun accounted =>
                accounted.issue wanted (Bool.eq_false_iff.mpr resting)
  | hear index completion age =>
      change metering.StepsTo (metering.hear index completion age)
      unfold hear
      dsimp only
      split
      · next underway =>
          exact .told index _ false _ age fun accounted =>
            accounted.hear underway ((metering.writes index).write.hears_receive completion)
      · exact .still
  | lose index => exact .lost index

private theorem accounted_setWrite {metering : Metering ι}
    (accounts : ∀ index, (metering.writes index).Accounted) (index : ι)
    {participant : Participant} (accounted : participant.Accounted) (other : ι) :
    ((metering.setWrite index participant).writes other).Accounted := by
  by_cases own : other = index
  · subst own
    rw [metering.setWrite_self]
    exact accounted
  · rw [metering.setWrite_of_ne own]
    exact accounts other

private theorem accounted_step {metering : Metering ι}
    (accounts : ∀ index, (metering.writes index).Accounted) (move : Move ι) (index : ι) :
    ((metering.step move).writes index).Accounted := by
  have steps := metering.stepsTo_step move
  generalize metering.step move = after at steps ⊢
  cases steps with
  | still => exact accounts index
  | told mover write underway notices age accounted =>
      exact accounted_setWrite accounts mover (accounted (accounts mover)) index
  | lost mover => exact accounted_setWrite accounts mover (accounts mover).lose index

private theorem accounted_run (moves : List (Move ι)) {metering : Metering ι}
    (accounts : ∀ index, (metering.writes index).Accounted) (index : ι) :
    ((metering.run moves).writes index).Accounted := by
  induction moves generalizing metering with
  | nil => exact accounts index
  | cons move rest ih => exact ih (accounted_step accounts move)

/-! ### What stands on the board -/

section Sums

variable [Fintype ι]

def total (metering : Metering ι) (counter : Metrics.Counter) : Nat :=
  ∑ index, (metering.writes index).tally counter

def verdicts (metering : Metering ι) : Nat :=
  ∑ index, Notice.verdicts (metering.writes index).notices

/-- The board counts what the writes have told, modulo the size of a word. -/
structure Posted (metering : Metering ι) : Prop where
  counted : ∀ counter, metering.board.counts counter = UInt64.ofNat (metering.total counter)
  observed : metering.board.writeTimes.count = UInt64.ofNat metering.verdicts

omit [DecidableEq ι] in
private theorem Posted.start (requests : ι → Request) (budgets : ι → UInt32) :
    (Metering.start requests budgets).Posted where
  counted counter := by
    have none : (Metering.start requests budgets).total counter = 0 :=
      Finset.sum_eq_zero fun _ _ => rfl
    rw [none]
    rfl
  observed := by
    have none : (Metering.start requests budgets).verdicts = 0 :=
      Finset.sum_eq_zero fun _ _ => rfl
    rw [none]
    rfl

private theorem Posted.tell {metering : Metering ι} (posted : metering.Posted) (index : ι)
    (write : Write) (underway : Bool) (notices : List Notice) (age : Duration) :
    (metering.tell index { metering.writes index with write := write, underway := underway }
      notices age).Posted where
  counted counter := by
    have sum := sum_replace metering.writes index _ (Participant.tally · counter) _
      ((metering.writes index).tally_telling write underway notices counter)
    unfold Metering.tell
    dsimp only
    rw [Notice.counts_recordAll, posted.counted, ← UInt64.ofNat_add]
    exact congrArg UInt64.ofNat sum.symm
  observed := by
    have sum := sum_replace metering.writes index _
      (fun participant => Notice.verdicts participant.notices) _
      ((metering.writes index).verdicts_telling write underway notices)
    unfold Metering.tell
    dsimp only
    rw [Notice.observations_recordAll, posted.observed, ← UInt64.ofNat_add]
    exact congrArg UInt64.ofNat sum.symm

private theorem Posted.lose {metering : Metering ι} (posted : metering.Posted) (index : ι) :
    (metering.setWrite index (metering.writes index).lose).Posted where
  counted counter := by
    have sum := sum_replace metering.writes index (metering.writes index).lose
      (Participant.tally · counter) 0 rfl
    exact (posted.counted counter).trans (congrArg UInt64.ofNat sum.symm)
  observed := by
    have sum := sum_replace metering.writes index (metering.writes index).lose
      (fun participant => Notice.verdicts participant.notices) 0 rfl
    exact posted.observed.trans (congrArg UInt64.ofNat sum.symm)

private theorem Posted.step {metering : Metering ι} (posted : metering.Posted) (move : Move ι) :
    (metering.step move).Posted := by
  have steps := metering.stepsTo_step move
  generalize metering.step move = after at steps ⊢
  cases steps with
  | still => exact posted
  | told index write underway notices age _accounted =>
      exact posted.tell index write underway notices age
  | lost index => exact posted.lose index

private theorem Posted.run (moves : List (Move ι)) {metering : Metering ι}
    (posted : metering.Posted) : (metering.run moves).Posted := by
  induction moves generalizing metering with
  | nil => exact posted
  | cons move rest ih => exact ih (posted.step move)

/-! ### The balance -/

def decided (metering : Metering ι) : Finset ι :=
  Finset.univ.filter fun index => (metering.writes index).write.verdict?.isSome

/-- The writes whose latest attempt was made, and has neither been taken back nor recorded as
accepted. -/
def unresolved (metering : Metering ι) : Finset ι :=
  Finset.univ.filter fun index => (metering.writes index).unresolved

/-- What the accounts of the writes come to. -/
structure Balanced (metering : Metering ι) : Prop where
  attempted : metering.total .putsAttempted =
    metering.total .putsAccepted + metering.total .compensations + metering.unresolved.card
  observed : metering.total .putsAccepted + metering.total .putsExhausted = metering.verdicts
  verdicts : metering.verdicts = metering.decided.card
  failed : metering.total .compensationsFailed ≤ metering.total .compensations
  /-- Every write is recorded once its verdict can be seen, and then once, as what it came to. -/
  recorded : ∀ index,
    (metering.writes index).tally .putsAccepted =
        (if (metering.writes index).write.verdict? = some true then 1 else 0) ∧
      (metering.writes index).tally .putsExhausted =
        if (metering.writes index).write.verdict? = some false then 1 else 0

omit [DecidableEq ι] in
private theorem Balanced.of_accounted {metering : Metering ι}
    (accounts : ∀ index, (metering.writes index).Accounted) : metering.Balanced where
  attempted := by
    unfold total unresolved
    rw [Finset.card_filter, ← Finset.sum_add_distrib, ← Finset.sum_add_distrib]
    apply Finset.sum_congr rfl
    intro index _
    rw [(accounts index).attempted]
    cases (metering.writes index).unresolved <;> rfl
  observed := by
    unfold total Metering.verdicts
    rw [← Finset.sum_add_distrib]
    exact Finset.sum_congr rfl fun index _ => (accounts index).observed.symm
  verdicts := by
    unfold Metering.verdicts decided
    rw [Finset.card_filter]
    apply Finset.sum_congr rfl
    intro index _
    rw [(accounts index).observed, (accounts index).accepted, (accounts index).exhausted]
    cases (metering.writes index).write.verdict? with
    | none => rfl
    | some verdict => cases verdict <;> rfl
  failed := Finset.sum_le_sum fun index _ =>
    (Nat.le_add_right _ _).trans (accounts index).failed
  recorded index := ⟨(accounts index).accepted, (accounts index).exhausted⟩

/-- The accounts of any number of writes on one board, whatever the store does, in whatever order
they go on, and whichever tasks go away: at every point every attempt was recorded as accepted,
taken back, or is the latest one of a write and unresolved, and every verdict is recorded once, no
later than it can be seen. When all writes have their verdicts, nothing is unresolved. -/
theorem run_balanced (requests : ι → Request) (budgets : ι → UInt32) (moves : List (Move ι)) :
    let metering := (start requests budgets).run moves
    let board := metering.board
    metering.Posted ∧ metering.Balanced ∧
      board.counts .putsAttempted =
        board.counts .putsAccepted + board.counts .compensations +
          UInt64.ofNat metering.unresolved.card ∧
      board.counts .putsAccepted + board.counts .putsExhausted = board.writeTimes.count ∧
      board.writeTimes.count = UInt64.ofNat metering.decided.card ∧
      ((∀ index, index ∈ metering.decided) →
        metering.total .putsAttempted =
            metering.total .putsAccepted + metering.total .compensations ∧
          board.counts .putsAttempted =
            board.counts .putsAccepted + board.counts .compensations) := by
  intro metering board
  have accounts : ∀ index, (metering.writes index).Accounted :=
    accounted_run moves fun index => .of (requests index) (budgets index)
  have posted : metering.Posted := (Posted.start requests budgets).run moves
  have balanced : metering.Balanced := .of_accounted accounts
  have attempted : board.counts .putsAttempted =
      board.counts .putsAccepted + board.counts .compensations +
        UInt64.ofNat metering.unresolved.card := by
    rw [posted.counted, posted.counted, posted.counted, balanced.attempted, UInt64.ofNat_add,
      UInt64.ofNat_add]
  refine ⟨posted, balanced, attempted, ?_, ?_, ?_⟩
  · rw [posted.counted, posted.counted, posted.observed, ← balanced.observed, UInt64.ofNat_add]
  · rw [posted.observed, balanced.verdicts]
  · intro finished
    have none : metering.unresolved = ∅ := by
      refine Finset.filter_eq_empty_iff.mpr ?_
      intro index _ opened
      obtain ⟨verdict, decided⟩ :=
        Option.isSome_iff_exists.mp (Finset.mem_filter.mp (finished index)).2
      rw [(accounts index).unresolved_of_verdict decided] at opened
      cases opened
    have total := balanced.attempted
    rw [none, Finset.card_empty] at total attempted
    exact ⟨total, attempted.trans (UInt64.add_zero _)⟩

end Sums

def oneVersion (_index : Bool) : Request := { location := "loc", content := "content" }

def noRetry (_index : Bool) : UInt32 := 0

def acceptance : Completion := .ok ⟨[.withStatus ⟨"peer-1"⟩ ⟨"loc", "content", 0⟩ .ok]⟩

/-- The first write is accepted. The other one is refused, and goes away before it takes its put
back. -/
def losing : List (Move Bool) :=
  [.issue true ⟨0⟩, .issue false ⟨0⟩, .hear false (.error (.other "no")) ⟨3⟩,
    .hear true acceptance ⟨5⟩, .lose false]

def finishing : List (Move Bool) :=
  [.issue true ⟨0⟩, .issue false ⟨0⟩, .hear false (.error (.other "no")) ⟨3⟩,
    .issue false ⟨3⟩, .hear true acceptance ⟨5⟩, .hear false (.error (.other "no")) ⟨8⟩]

theorem run_balanced_pair :
    let lost := (start oneVersion noRetry).run losing
    let finished := (start oneVersion noRetry).run finishing
    lost.unresolved = {false} ∧ lost.decided = {true} ∧
      lost.board.counts .putsAttempted =
        lost.board.counts .putsAccepted + lost.board.counts .compensations + 1 ∧
      (∀ index, index ∈ finished.decided) ∧ finished.total .putsAttempted = 2 ∧
      finished.total .putsAccepted + finished.total .compensations = 2 ∧
      finished.board.counts .putsAttempted =
        finished.board.counts .putsAccepted + finished.board.counts .compensations := by
  intro lost finished
  have unresolved : lost.unresolved = {false} := by decide +kernel
  have decided : lost.decided = {true} := by decide +kernel
  have verdicts : ∀ index, index ∈ finished.decided := by decide +kernel
  have attempts : finished.total .putsAttempted = 2 := by decide +kernel
  obtain ⟨_, _, balance, _⟩ := run_balanced oneVersion noRetry losing
  obtain ⟨_, _, _, _, _, consequence⟩ := run_balanced oneVersion noRetry finishing
  obtain ⟨total, counts⟩ := consequence verdicts
  refine ⟨unresolved, decided, ?_, verdicts, attempts, total.symm.trans attempts, counts⟩
  have one : UInt64.ofNat lost.unresolved.card = 1 := by
    rw [unresolved]
    rfl
  rw [← one]
  exact balance

/-! ### Workloads -/

private theorem tell_self (metering : Metering ι) (index : ι) (participant : Participant)
    (notices : List Notice) (age : Duration) :
    (metering.tell index participant notices age).writes index =
      { participant with notices := participant.notices ++ notices } := if_pos rfl

private theorem tell_of_ne (metering : Metering ι) {index other : ι} (different : other ≠ index)
    (participant : Participant) (notices : List Notice) (age : Duration) :
    (metering.tell index participant notices age).writes other = metering.writes other :=
  if_neg different

private theorem issue_eq (metering : Metering ι) (index : ι) (age : Duration) {call : Call}
    (wanted : (metering.writes index).write.call? = some call)
    (resting : (metering.writes index).underway = false) :
    metering.issue index age =
      metering.tell index { metering.writes index with underway := true }
        [.counted (Write.counterOf call)] age := by
  unfold issue
  dsimp only
  rw [wanted]
  dsimp only
  rw [if_neg (by rw [resting]; exact Bool.false_ne_true)]

private theorem hear_eq (metering : Metering ι) (index : ι) (completion : Completion)
    (age : Duration) (underway : (metering.writes index).underway = true) :
    metering.hear index completion age =
      metering.tell index
        { metering.writes index with
          write := ((metering.writes index).write.receive completion).1, underway := false }
        ((metering.writes index).write.receive completion).2 age := by
  unfold hear
  dsimp only
  rw [if_pos underway]

/-- What a move does to the writes of a workload, moves over a store of which nothing is known do as
well. -/
theorem exists_run_eq_step (workload : Workload ι) (move : Workload.Move ι)
    (board : Metrics.Board) :
    ∃ moves, (run moves ⟨workload.writes, board⟩).writes = (workload.step move).writes := by
  cases move with
  | advance index =>
      change ∃ moves, (run moves ⟨workload.writes, board⟩).writes =
        (workload.setWrite index ((workload.writes index).advance workload.cluster).1).writes
      have step := (workload.writes index).advancesTo_advance workload.cluster
      generalize (workload.writes index).advance workload.cluster = outcome at step ⊢
      cases step with
      | idle none =>
          refine ⟨[], ?_⟩
          funext other
          by_cases own : other = index
          · subst own
            exact (workload.setWrite_self other _).symm
          · exact (workload.setWrite_of_ne own _).symm
      | @completed call wanted underway =>
          let completion := (workload.cluster.complete call (workload.writes index).write.request).1
          refine ⟨[.hear index completion ⟨0⟩], ?_⟩
          exact congrArg Metering.writes
            (hear_eq ⟨workload.writes, board⟩ index completion ⟨0⟩ underway)
      | @refused call wanted resting rejecting =>
          refine ⟨[.issue index ⟨0⟩, .hear index (.error Cluster.refusal) ⟨0⟩], ?_⟩
          change (((⟨workload.writes, board⟩ : Metering ι).issue index ⟨0⟩).hear index
            (.error Cluster.refusal) ⟨0⟩).writes = _
          rw [issue_eq _ index ⟨0⟩ wanted resting]
          have underway := congrArg Participant.underway
            (tell_self ⟨workload.writes, board⟩ index
              { workload.writes index with underway := true } [.counted (Write.counterOf call)] ⟨0⟩)
          rw [hear_eq _ index _ ⟨0⟩ underway]
          funext other
          by_cases own : other = index
          · subst own
            rw [workload.setWrite_self, tell_self, tell_self]
            rfl
          · rw [workload.setWrite_of_ne own, tell_of_ne _ own, tell_of_ne _ own]
      | @taken call wanted resting accepting =>
          refine ⟨[.issue index ⟨0⟩], ?_⟩
          exact congrArg Metering.writes
            (issue_eq ⟨workload.writes, board⟩ index ⟨0⟩ wanted resting)
  | lose index => exact ⟨[.lose index], rfl⟩
  | submit call request =>
      refine ⟨[], ?_⟩
      change workload.writes = (workload.submit call request).writes
      unfold submit
      split <;> rfl
  | complete number =>
      refine ⟨[], ?_⟩
      change workload.writes = (workload.complete number).writes
      unfold complete
      split <;> rfl
  | _ => exact ⟨[], rfl⟩

private theorem exists_run_eq_run (workload : Workload ι) (moves : List (Workload.Move ι))
    (board : Metrics.Board) :
    ∃ steps, (run steps ⟨workload.writes, board⟩).writes = (workload.run moves).writes := by
  induction moves generalizing workload board with
  | nil => exact ⟨[], rfl⟩
  | cons move rest ih =>
      obtain ⟨first, same⟩ := exists_run_eq_step workload move board
      obtain ⟨later, whole⟩ :=
        ih (workload.step move) (run first ⟨workload.writes, board⟩).board
      refine ⟨first ++ later, ?_⟩
      rw [← same] at whole
      unfold run at whole ⊢
      rw [List.foldl_append]
      exact whole

end Metering

/-- The writes of a workload keep their accounts. -/
theorem Workload.run_accounted {ι : Type} [DecidableEq ι] (cluster : Cluster)
    (requests : ι → Request) (budgets : ι → UInt32) (moves : List (Workload.Move ι)) (index : ι) :
    (((Workload.start cluster requests budgets).run moves).writes index).Accounted := by
  obtain ⟨steps, same⟩ :=
    Metering.exists_run_eq_run (Workload.start cluster requests budgets) moves {}
  rw [← same]
  exact Metering.accounted_run steps (fun index => .of (requests index) (budgets index)) index

end Quorate
