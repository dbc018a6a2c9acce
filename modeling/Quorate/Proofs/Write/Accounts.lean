import Quorate.Proofs.Write.Workload

/-!
The accounts of a write: how often it has told of every counter. Each of its attempts was recorded
as accepted, or was taken back, or is the latest one and still unresolved; its steps keep this in
balance, whatever they hear.
-/

namespace Quorate

open Store Workload

/-! ### Counting notices -/

namespace Notice

def verdictCounter (accepted : Bool) : Metrics.Counter :=
  if accepted then .putsAccepted else .putsExhausted

def counts (counter : Metrics.Counter) : Notice → Bool
  | .counted other => other = counter
  | .settled accepted => verdictCounter accepted = counter
  | _ => false

def settles : Notice → Bool
  | .settled _ => true
  | _ => false

def tally (counter : Metrics.Counter) (notices : List Notice) : Nat :=
  notices.countP (counts counter)

def verdicts (notices : List Notice) : Nat := notices.countP settles

@[simp]
theorem tally_append (counter : Metrics.Counter) (notices later : List Notice) :
    tally counter (notices ++ later) = tally counter notices + tally counter later :=
  List.countP_append

@[simp]
private theorem verdicts_append (notices later : List Notice) :
    verdicts (notices ++ later) = verdicts notices + verdicts later :=
  List.countP_append

@[simp]
private theorem tally_reported (counter : Metrics.Counter) (events : List Journal.Event) :
    tally counter (events.map .reported) = 0 := by
  simp [tally, counts, List.countP_eq_zero]

@[simp]
private theorem verdicts_reported (events : List Journal.Event) :
    verdicts (events.map .reported) = 0 := by
  simp [verdicts, settles, List.countP_eq_zero]

theorem counts_recordAll (counter : Metrics.Counter) (age : Duration) (notices : List Notice)
    (board : Metrics.Board) :
    (recordAll age notices board).counts counter =
      board.counts counter + UInt64.ofNat (tally counter notices) := by
  induction notices generalizing board with
  | nil => exact (UInt64.add_zero _).symm
  | cons notice rest ih =>
      have first : (record age board notice).counts counter =
          board.counts counter + UInt64.ofNat (if counts counter notice then 1 else 0) := by
        cases notice with
        | reported event => exact (UInt64.add_zero _).symm
        | handled registration reply => exact (UInt64.add_zero _).symm
        | counted other =>
            by_cases same : counter = other
            · simp [record, Metrics.Board.increment, counts, same]
            · simp [record, Metrics.Board.increment, counts, same, Ne.symm same]
        | settled accepted =>
            have recorded : (record age board (.settled accepted)).counts counter =
                (board.increment (verdictCounter accepted)).counts counter := rfl
            rw [recorded]
            by_cases same : counter = verdictCounter accepted
            · simp [Metrics.Board.increment, counts, same]
            · simp [Metrics.Board.increment, counts, same, Ne.symm same]
      unfold tally
      rw [List.countP_cons, Nat.add_comm, UInt64.ofNat_add, ← UInt64.add_assoc, ← first]
      exact ih (record age board notice)

theorem observations_recordAll (age : Duration) (notices : List Notice) (board : Metrics.Board) :
    (recordAll age notices board).writeTimes.count =
      board.writeTimes.count + UInt64.ofNat (verdicts notices) := by
  induction notices generalizing board with
  | nil => exact (UInt64.add_zero _).symm
  | cons notice rest ih =>
      have first : (record age board notice).writeTimes.count =
          board.writeTimes.count + UInt64.ofNat (if settles notice then 1 else 0) := by
        cases notice with
        | settled accepted => rfl
        | _ => exact (UInt64.add_zero _).symm
      unfold verdicts
      rw [List.countP_cons, Nat.add_comm, UInt64.ofNat_add, ← UInt64.add_assoc, ← first]
      exact ih (record age board notice)

/-- Whether the latest attempt is unresolved after one more notice. -/
def opens : Bool → Notice → Bool
  | _, .counted .putsAttempted => true
  | _, .counted .compensations => false
  | _, .settled true => false
  | unresolved, _ => unresolved

private theorem foldl_opens_reported (unresolved : Bool) (events : List Journal.Event) :
    (events.map .reported).foldl opens unresolved = unresolved := by
  induction events with
  | nil => rfl
  | cons event rest ih => exact ih

end Notice

/-! ### What a write hears -/

namespace Write

private theorem call?_of_putting {write : Write} (putting : write.stage = .putting) :
    write.call? = some .put := by
  unfold call?
  rw [putting]

private theorem call?_of_removing {write : Write} {givingUp : Bool}
    (removing : write.stage = .removing givingUp) : write.call? = some .remove := by
  unfold call?
  rw [removing]

private theorem stage_of_call? {write : Write} {call : Call} (wanted : write.call? = some call) :
    (call = .put ∧ write.stage = .putting) ∨
      ∃ givingUp, call = .remove ∧ write.stage = .removing givingUp := by
  unfold call? at wanted
  cases stage : write.stage with
  | putting =>
      rw [stage] at wanted
      cases wanted
      exact .inl ⟨rfl, rfl⟩
  | removing givingUp =>
      rw [stage] at wanted
      cases wanted
      exact .inr ⟨givingUp, rfl, rfl⟩
  | decided accepted =>
      rw [stage] at wanted
      cases wanted
  | lost =>
      rw [stage] at wanted
      cases wanted

inductive Hears (write : Write) : Write × List Notice → Prop
  | idle (none : write.call? = none) : Hears write (write, [])
  | accepted (putting : write.stage = .putting) (events : List Journal.Event) :
      Hears write (write.settle true, events.map .reported ++ [.settled true])
  | denied (putting : write.stage = .putting) (givingUp : Bool)
      (exceeded : givingUp = decide (write.budget < write.retries + 1))
      (events : List Journal.Event) :
      Hears write
        ({ write with retries := write.retries + 1, stage := .removing givingUp },
          events.map .reported)
  | removed (removing : write.stage = .removing false) (notices : List Notice)
      (remarks : notices = [] ∨
        ∃ event, notices = [.reported event, .counted .compensationsFailed]) :
      Hears write ({ write with stage := .putting }, notices)
  | gaveUp (removing : write.stage = .removing true) (notices : List Notice)
      (remarks : notices = [] ∨
        ∃ event, notices = [.reported event, .counted .compensationsFailed]) :
      Hears write (write.settle false, notices ++ [.settled false])

theorem hears_receive (write : Write) (completion : Completion) :
    write.Hears (write.receive completion) := by
  unfold receive
  cases stage : write.stage with
  | putting =>
      dsimp only
      unfold receivePut
      dsimp only
      split
      · have told := Hears.accepted stage (Quorum.remarks completion ++
          [.quorumReached (Quorum.evaluate completion).failed.length
            (Quorum.evaluate completion).answered write.retries])
        rw [List.map_append, List.append_assoc] at told
        exact told
      · split
        · next exceeded =>
            have told := Hears.denied stage true (decide_eq_true exceeded).symm
              (Quorum.remarks completion ++ [.triesExhausted (write.retries + 1)])
            rw [List.map_append] at told
            exact told
        · next within =>
            have told := Hears.denied stage false (decide_eq_false within).symm
              (Quorum.remarks completion ++ [.putRetried (write.retries + 1)])
            rw [List.map_append] at told
            exact told
  | removing givingUp =>
      dsimp only
      unfold receiveRemoval
      dsimp only
      cases givingUp with
      | true =>
          cases completion with
          | ok response => exact .gaveUp stage [] (.inl rfl)
          | error failure => exact .gaveUp stage _ (.inr ⟨.contentNotDeleted failure, rfl⟩)
      | false =>
          cases completion with
          | ok response => exact .removed stage [] (.inl rfl)
          | error failure => exact .removed stage _ (.inr ⟨.contentNotDeleted failure, rfl⟩)
  | decided accepted =>
      refine .idle ?_
      unfold call?
      rw [stage]
  | lost =>
      refine .idle ?_
      unfold call?
      rw [stage]

private theorem verdict?_settle {write : Write} (undecided : write.verdict? = none)
    (accepted : Bool) : (write.settle accepted).verdict? = some accepted := by
  have empty : write.gate.value = none := undecided
  unfold settle verdict? Gate.peek Gate.signal
  rw [empty]
  rfl

end Write

/-! ### The accounts of one write -/

namespace Workload.Participant

def tally (participant : Participant) (counter : Metrics.Counter) : Nat :=
  Notice.tally counter participant.notices

/-- The latest attempt was made, and has neither been taken back nor recorded as accepted. -/
def unresolved (participant : Participant) : Bool :=
  participant.notices.foldl Notice.opens false

/-- Between its steps a write that goes on has an unresolved attempt if its put is under way, or if
it is about to take the put back. -/
inductive Phase (participant : Participant) : Prop where
  | putting (stage : participant.write.stage = .putting)
      (undecided : participant.write.verdict? = none)
      (latest : participant.unresolved = participant.underway)
  | removing (givingUp : Bool) (stage : participant.write.stage = .removing givingUp)
      (undecided : participant.write.verdict? = none)
      (latest : participant.unresolved = !participant.underway)
  | ended (idle : participant.write.call? = none) (resting : participant.underway = false)
      (latest : ∀ verdict, participant.write.verdict? = some verdict →
        participant.unresolved = false)

/-- What a write has told is in balance, and agrees with its verdict. -/
structure Accounted (participant : Participant) : Prop where
  attempted : participant.tally .putsAttempted =
    participant.tally .putsAccepted + participant.tally .compensations +
      participant.unresolved.toNat
  accepted : participant.tally .putsAccepted =
    if participant.write.verdict? = some true then 1 else 0
  exhausted : participant.tally .putsExhausted =
    if participant.write.verdict? = some false then 1 else 0
  observed : Notice.verdicts participant.notices =
    participant.tally .putsAccepted + participant.tally .putsExhausted
  /-- A removal that is under way has not failed yet. -/
  failed : participant.tally .compensationsFailed +
      (if participant.write.call? = some .remove then participant.underway.toNat else 0) ≤
    participant.tally .compensations
  phase : participant.Phase

theorem Accounted.of (request : Request) (budget : UInt32) :
    (Participant.of request budget).Accounted where
  attempted := rfl
  accepted := rfl
  exhausted := rfl
  observed := rfl
  failed := Nat.le_refl 0
  phase := .putting rfl rfl rfl

variable {participant : Participant}

private theorem Phase.of_call (phase : participant.Phase) {call : Call}
    (wanted : participant.write.call? = some call) :
    participant.write.verdict? = none ∧
      participant.unresolved = (if call = .put then participant.underway
        else !participant.underway) := by
  cases phase with
  | putting stage undecided latest =>
      rw [Write.call?_of_putting stage] at wanted
      cases wanted
      exact ⟨undecided, latest⟩
  | removing givingUp stage undecided latest =>
      rw [Write.call?_of_removing stage] at wanted
      cases wanted
      exact ⟨undecided, latest⟩
  | ended idle resting latest =>
      rw [idle] at wanted
      cases wanted

def telling (participant : Participant) (write : Write) (underway : Bool)
    (notices : List Notice) : Participant :=
  ⟨write, underway, participant.notices ++ notices⟩

theorem tally_telling (participant : Participant) (write : Write) (underway : Bool)
    (notices : List Notice) (counter : Metrics.Counter) :
    (participant.telling write underway notices).tally counter =
      participant.tally counter + Notice.tally counter notices :=
  Notice.tally_append counter participant.notices notices

theorem verdicts_telling (participant : Participant) (write : Write) (underway : Bool)
    (notices : List Notice) :
    Notice.verdicts (participant.telling write underway notices).notices =
      Notice.verdicts participant.notices + Notice.verdicts notices :=
  Notice.verdicts_append participant.notices notices

/-- What the notices of a step add to the accounts, and whether they leave the latest attempt
unresolved. -/
structure Adds (participant : Participant) (notices : List Notice)
    (attempts acceptances exhaustions removals failures : Nat) (unresolved : Bool) : Prop where
  attempted : Notice.tally .putsAttempted notices = attempts
  accepted : Notice.tally .putsAccepted notices = acceptances
  exhausted : Notice.tally .putsExhausted notices = exhaustions
  compensated : Notice.tally .compensations notices = removals
  failed : Notice.tally .compensationsFailed notices = failures
  observed : Notice.verdicts notices = acceptances + exhaustions
  latest : notices.foldl Notice.opens participant.unresolved = unresolved

private theorem Accounted.telling (accounted : participant.Accounted) {write : Write}
    {underway : Bool} {notices : List Notice}
    {attempts acceptances exhaustions removals failures : Nat}
    {unresolved : Bool}
    (adds : participant.Adds notices attempts acceptances exhaustions removals failures unresolved)
    (balance : attempts + participant.unresolved.toNat =
      acceptances + removals + unresolved.toNat)
    (acceptance : (if participant.write.verdict? = some true then 1 else 0) + acceptances =
      if write.verdict? = some true then 1 else 0)
    (exhaustion : (if participant.write.verdict? = some false then 1 else 0) + exhaustions =
      if write.verdict? = some false then 1 else 0)
    (failure : failures + (if write.call? = some .remove then underway.toNat else 0) ≤
      removals +
        if participant.write.call? = some .remove then participant.underway.toNat else 0)
    (phase : (participant.telling write underway notices).unresolved = unresolved →
      (participant.telling write underway notices).Phase) :
    (participant.telling write underway notices).Accounted := by
  have tallied := participant.tally_telling write underway notices
  have opened : (participant.telling write underway notices).unresolved = unresolved :=
    List.foldl_append.trans adds.latest
  have observed := participant.verdicts_telling write underway notices
  have before := accounted.failed
  constructor
  case attempted =>
    rw [tallied, tallied, tallied, opened, adds.attempted, adds.accepted, adds.compensated,
      accounted.attempted]
    omega
  case accepted =>
    rw [tallied, adds.accepted, accounted.accepted]
    exact acceptance
  case exhausted =>
    rw [tallied, adds.exhausted, accounted.exhausted]
    exact exhaustion
  case observed =>
    rw [observed, tallied, tallied, adds.observed, adds.accepted, adds.exhausted,
      accounted.observed]
    omega
  case failed =>
    rw [tallied, tallied, adds.failed, adds.compensated]
    change _ + (if write.call? = some .remove then underway.toNat else 0) ≤ _
    omega
  case phase => exact phase opened

private theorem Accounted.issue_put (accounted : participant.Accounted)
    (putting : participant.write.stage = .putting) (resting : participant.underway = false) :
    (participant.telling participant.write true [.counted .putsAttempted]).Accounted := by
  have wanted := Write.call?_of_putting putting
  obtain ⟨undecided, latest⟩ := accounted.phase.of_call wanted
  have adds : participant.Adds [.counted .putsAttempted] 1 0 0 0 0 true :=
    ⟨rfl, rfl, rfl, rfl, rfl, rfl, rfl⟩
  refine accounted.telling adds ?_ rfl rfl ?_ ?_
  · rw [latest, resting]
    rfl
  · rw [wanted]
    exact Nat.le_refl 0
  · exact fun opened => .putting putting undecided opened

private theorem Accounted.issue_removal (accounted : participant.Accounted) (givingUp : Bool)
    (removing : participant.write.stage = .removing givingUp)
    (resting : participant.underway = false) :
    (participant.telling participant.write true [.counted .compensations]).Accounted := by
  have wanted := Write.call?_of_removing removing
  obtain ⟨undecided, latest⟩ := accounted.phase.of_call wanted
  have adds : participant.Adds [.counted .compensations] 0 0 0 1 0 false :=
    ⟨rfl, rfl, rfl, rfl, rfl, rfl, rfl⟩
  refine accounted.telling adds ?_ rfl rfl ?_ ?_
  · rw [latest, resting]
    rfl
  · rw [wanted, resting]
    exact Nat.le_refl 1
  · exact fun opened => .removing givingUp removing undecided opened

theorem Accounted.issue (accounted : participant.Accounted) {call : Call}
    (wanted : participant.write.call? = some call) (resting : participant.underway = false) :
    (participant.telling participant.write true
      [.counted (Write.counterOf call)]).Accounted := by
  rcases Write.stage_of_call? wanted with ⟨rfl, putting⟩ | ⟨givingUp, rfl, removing⟩
  · exact accounted.issue_put putting resting
  · exact accounted.issue_removal givingUp removing resting

private theorem exists_adds_of_remarks (participant : Participant) {notices : List Notice}
    (remarks : notices = [] ∨
      ∃ event, notices = [.reported event, .counted .compensationsFailed]) :
    ∃ failures, failures ≤ 1 ∧
      participant.Adds notices 0 0 0 0 failures participant.unresolved := by
  rcases remarks with rfl | ⟨event, rfl⟩
  · exact ⟨0, Nat.zero_le 1, rfl, rfl, rfl, rfl, rfl, rfl, rfl⟩
  · exact ⟨1, Nat.le_refl 1, rfl, rfl, rfl, rfl, rfl, rfl, rfl⟩

private theorem Adds.settle {notices : List Notice} {failures : Nat} {unresolved : Bool}
    (adds : participant.Adds notices 0 0 0 0 failures unresolved) (accepted : Bool) :
    participant.Adds (notices ++ [.settled accepted]) 0 accepted.toNat (!accepted).toNat 0 failures
      (!accepted && unresolved) := by
  constructor
  case attempted =>
    rw [Notice.tally_append, adds.attempted]
    cases accepted <;> rfl
  case accepted =>
    rw [Notice.tally_append, adds.accepted]
    cases accepted <;> rfl
  case exhausted =>
    rw [Notice.tally_append, adds.exhausted]
    cases accepted <;> rfl
  case compensated =>
    rw [Notice.tally_append, adds.compensated]
    cases accepted <;> rfl
  case failed =>
    rw [Notice.tally_append, adds.failed]
    cases accepted <;> rfl
  case observed =>
    rw [Notice.verdicts_append, adds.observed]
    cases accepted <;> rfl
  case latest =>
    rw [List.foldl_append, adds.latest]
    cases accepted <;> rfl

private theorem adds_reported (participant : Participant) (events : List Journal.Event) :
    participant.Adds (events.map .reported) 0 0 0 0 0 participant.unresolved :=
  ⟨Notice.tally_reported _ events, Notice.tally_reported _ events, Notice.tally_reported _ events,
    Notice.tally_reported _ events, Notice.tally_reported _ events,
    Notice.verdicts_reported events, Notice.foldl_opens_reported _ events⟩

/-- Whatever a write hears, its accounts stay in balance. -/
theorem Accounted.hear (accounted : participant.Accounted)
    (underway : participant.underway = true) {outcome : Write × List Notice}
    (hears : participant.write.Hears outcome) :
    (participant.telling outcome.1 false outcome.2).Accounted := by
  cases hears with
  | idle none =>
      -- Only a write that makes a call can have one under way.
      cases accounted.phase with
      | putting stage undecided latest =>
          rw [Write.call?_of_putting stage] at none
          cases none
      | removing givingUp stage undecided latest =>
          rw [Write.call?_of_removing stage] at none
          cases none
      | ended idle resting latest =>
          rw [underway] at resting
          cases resting
  | accepted putting events =>
      have wanted := Write.call?_of_putting putting
      obtain ⟨undecided, latest⟩ := accounted.phase.of_call wanted
      have adds := (participant.adds_reported events).settle true
      refine accounted.telling adds ?_ ?_ ?_ ?_ ?_
      · rw [latest, underway]
        rfl
      · rw [undecided, Write.verdict?_settle undecided]
        rfl
      · rw [undecided, Write.verdict?_settle undecided]
        rfl
      · exact Nat.zero_le _
      · exact fun opened => .ended rfl rfl fun _ _ => opened
  | denied putting givingUp _exceeded events =>
      have wanted := Write.call?_of_putting putting
      obtain ⟨undecided, latest⟩ := accounted.phase.of_call wanted
      refine accounted.telling (participant.adds_reported events) ?_ rfl rfl ?_ ?_
      · rw [Nat.add_comm]
      · exact Nat.zero_le _
      · intro opened
        refine .removing givingUp rfl undecided (opened.trans ?_)
        rw [latest, underway]
        rfl
  | removed removing notices remarks =>
      have wanted := Write.call?_of_removing removing
      obtain ⟨undecided, latest⟩ := accounted.phase.of_call wanted
      obtain ⟨failures, atMost, adds⟩ := participant.exists_adds_of_remarks remarks
      refine accounted.telling adds ?_ rfl rfl ?_ ?_
      · rw [Nat.add_comm]
      · rw [wanted, underway]
        exact atMost
      · intro opened
        refine .putting rfl undecided (opened.trans ?_)
        rw [latest, underway]
        rfl
  | gaveUp removing notices remarks =>
      have wanted := Write.call?_of_removing removing
      obtain ⟨undecided, latest⟩ := accounted.phase.of_call wanted
      obtain ⟨failures, atMost, adds⟩ := participant.exists_adds_of_remarks remarks
      refine accounted.telling (adds.settle false) ?_ ?_ ?_ ?_ ?_
      · rw [latest, underway]
        rfl
      · rw [undecided, Write.verdict?_settle undecided]
        rfl
      · rw [undecided, Write.verdict?_settle undecided]
        rfl
      · rw [wanted, underway]
        exact atMost
      · intro opened
        refine .ended rfl rfl fun _ _ => opened.trans ?_
        rw [latest, underway]
        rfl

theorem Accounted.unresolved_of_verdict (accounted : participant.Accounted) {verdict : Bool}
    (decided : participant.write.verdict? = some verdict) : participant.unresolved = false := by
  cases accounted.phase with
  | putting stage undecided latest =>
      rw [undecided] at decided
      cases decided
  | removing givingUp stage undecided latest =>
      rw [undecided] at decided
      cases decided
  | ended idle resting latest => exact latest verdict decided

/-- A write whose task goes away keeps its accounts. -/
theorem Accounted.lose (accounted : participant.Accounted) : participant.lose.Accounted where
  attempted := accounted.attempted
  accepted := accounted.accepted
  exhausted := accounted.exhausted
  observed := accounted.observed
  failed := (Nat.le_add_right _ _).trans accounted.failed
  phase := .ended rfl rfl fun _ decided => accounted.unresolved_of_verdict decided

end Workload.Participant

end Quorate
