import Quorate.Messaging.Exchange
import Quorate.Write.Basic

/-!
Steps of a process, which can be executed and rolled back. A put step remembers that it was
executed, so that its rollback has something to undo; a message step has nothing to undo.
-/

namespace Quorate.Process

open Store Messaging

structure PutStep where
  request : Request
  budget : UInt32
  metered : Bool := true
  executed : Bool := false
deriving DecidableEq, Repr

namespace PutStep

def executing (step : PutStep) : PutStep := { step with executed := true }

def outcome (step : PutStep) (accepted : Bool) : Except Failure Unit :=
  if accepted then .ok () else .error (.putFailed step.request.text)

/-- The step from the start of a rollback on, and whether there is anything to remove. -/
def rollingBack (step : PutStep) : PutStep × Bool :=
  ({ step with executed := false }, step.executed)

/-- What a rollback reports after its removal. A rollback itself never fails. -/
def rollbackNotices (step : PutStep) (removed : Bool) : List Notice :=
  if removed then [] else [.reported (.rollbackIncomplete step.request)]

end PutStep

def removalOutcome (request : Request) : Completion → Bool × List Notice
  | .ok _ => (true, [])
  | .error failure => (false, [.reported (.versionNotRemoved request failure)])

structure MessageStep where
  exchange : Exchange
  metered : Bool := true
deriving DecidableEq, Repr

inductive Step where
  | put (step : PutStep)
  | message (step : MessageStep)
deriving DecidableEq, Repr

end Quorate.Process
