import Quorate.Gate
import Quorate.Notice
import Quorate.Quorum

/-!
A quorum-verified write as a machine. It makes one store call at a time: a put, and after a put
that missed the quorum a removal that takes it back. `call?` tells which call the machine is
making, `receive` takes the end of that call. How calls are carried out is not its business.
-/

namespace Quorate

open Store

inductive Write.Stage where
  | putting
  /-- Taking back the last put, to give up afterwards or to try again. -/
  | removing (givingUp : Bool)
  | decided (accepted : Bool)
  /-- The task that drove the write is gone. -/
  | lost
deriving DecidableEq, Repr

structure Write where
  request : Request
  budget : UInt32
  retries : UInt32 := 0
  stage : Write.Stage := .putting
  /-- Holds the verdict once there is one. The machine has the only signal handle. -/
  gate : Gate Bool := {}
deriving DecidableEq, Repr

namespace Write

def call? (write : Write) : Option Call :=
  match write.stage with
  | .putting => some .put
  | .removing _ => some .remove
  | .decided _ => none
  | .lost => none

/-- What is counted when a call is made, whether the store takes it or not. -/
def counterOf : Call → Metrics.Counter
  | .put => .putsAttempted
  | .remove => .compensations

/-- Publishes the verdict and lets the gate go. -/
def settle (write : Write) (accepted : Bool) : Write :=
  { write with stage := .decided accepted, gate := (write.gate.signal accepted).1.drop }

def receivePut (write : Write) (completion : Completion) : Write × List Notice :=
  let decision := Quorum.evaluate completion
  let remarks := (Quorum.remarks completion).map Notice.reported
  if decision.accepted then
    (write.settle true,
      remarks ++
        [.reported (.quorumReached decision.failed.length decision.answered write.retries),
         .settled true])
  else
    let retries := write.retries + 1
    if write.budget < retries then
      ({ write with retries := retries, stage := .removing true },
        remarks ++ [.reported (.triesExhausted retries)])
    else
      ({ write with retries := retries, stage := .removing false },
        remarks ++ [.reported (.putRetried retries)])

/-- The end of a removal. Its outcome is reported and otherwise ignored. -/
def receiveRemoval (write : Write) (givingUp : Bool) (completion : Completion) :
    Write × List Notice :=
  let remarks := match completion with
    | .ok _ => []
    | .error failure => [.reported (.contentNotDeleted failure), .counted .compensationsFailed]
  if givingUp then (write.settle false, remarks ++ [.settled false])
  else ({ write with stage := .putting }, remarks)

def receive (write : Write) (completion : Completion) : Write × List Notice :=
  match write.stage with
  | .putting => write.receivePut completion
  | .removing givingUp => write.receiveRemoval givingUp completion
  | .decided _ => (write, [])
  | .lost => (write, [])

/-- The task that drives the write goes away before the verdict. -/
def lose (write : Write) : Write := { write with stage := .lost, gate := write.gate.drop }

def isDone (write : Write) : Bool := write.gate.isOpen

def verdict? (write : Write) : Option Bool := write.gate.peek

/-- The end of a wait for the verdict, if it has come. A write that was lost counts as failed. -/
def awaited? (write : Write) : Option (Bool × List Notice) :=
  match write.gate.poll with
  | some (.ok accepted) => some (accepted, [])
  | some (.error fault) =>
      some (false, [.reported (.waitAbandoned write.request.versionKey fault.message)])
  | none => none

def callsLeft (write : Write) : Nat :=
  2 * (write.budget.toNat + 1 - write.retries.toNat) + 2

end Write

/-- The rule for requests that come from outside: the location is judged before the content. -/
def Store.Request.check (request : Request) : Except Failure Unit :=
  match Key.check request.location with
  | .error fault => .error (.ofKeyFault fault)
  | .ok _ =>
      match Key.check request.content with
      | .error fault => .error (.ofKeyFault fault)
      | .ok _ => .ok ()

end Quorate
