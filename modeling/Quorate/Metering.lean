import Quorate.Workload

/-!
Any number of writes that count on one board, one step at a time and in any order. Nothing is known
of the store here: a call that was made ends in any way and at any time, or never. A call that is
refused on the spot is one whose end is heard next. The age of a write is what the clock says it is.
-/

namespace Quorate

open Store Workload

structure Metering (ι : Type) where
  writes : ι → Participant
  board : Metrics.Board := {}

namespace Metering

inductive Move (ι : Type) where
  /-- The write makes its next call. -/
  | issue (index : ι) (age : Duration)
  /-- The write hears how the call ended that is under way. -/
  | hear (index : ι) (completion : Completion) (age : Duration)
  | lose (index : ι)

variable {ι : Type} [DecidableEq ι]

def start (requests : ι → Request) (budgets : ι → UInt32) : Metering ι :=
  { writes := fun index => .of (requests index) (budgets index) }

def setWrite (metering : Metering ι) (index : ι) (participant : Participant) : Metering ι :=
  { metering with
    writes := fun other => if other = index then participant else metering.writes other }

/-- What the write tells is counted on the board in the same step. -/
def tell (metering : Metering ι) (index : ι) (participant : Participant) (notices : List Notice)
    (age : Duration) : Metering ι :=
  { metering.setWrite index { participant with notices := participant.notices ++ notices } with
    board := Notice.recordAll age notices metering.board }

def issue (metering : Metering ι) (index : ι) (age : Duration) : Metering ι :=
  let participant := metering.writes index
  match participant.write.call? with
  | none => metering
  | some call =>
      if participant.underway then metering
      else
        metering.tell index { participant with underway := true }
          [.counted (Write.counterOf call)] age

def hear (metering : Metering ι) (index : ι) (completion : Completion) (age : Duration) :
    Metering ι :=
  let participant := metering.writes index
  if participant.underway then
    let (write, notices) := participant.write.receive completion
    metering.tell index { participant with write := write, underway := false } notices age
  else metering

def step (metering : Metering ι) : Move ι → Metering ι
  | .issue index age => metering.issue index age
  | .hear index completion age => metering.hear index completion age
  | .lose index => metering.setWrite index (metering.writes index).lose

def run (moves : List (Move ι)) (metering : Metering ι) : Metering ι := moves.foldl step metering

end Metering
end Quorate
