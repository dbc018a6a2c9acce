import Quorate.Write.Run

/-!
A write against a store whose answers are laid down beforehand, one for every call.
-/

namespace Quorate.Write

open Store

inductive Cue.Outcome where
  | refused (failure : Failure)
  | completed (completion : Completion)
  /-- The call takes the task that made it down with it. -/
  | fatal
deriving Repr

def Cue.Outcome.completion? : Cue.Outcome → Option Completion
  | .refused failure => some (.error failure)
  | .completed completion => some completion
  | .fatal => none

structure Cue where
  delay : Nat := 0
  outcome : Cue.Outcome := .completed (.ok {})
deriving Repr

inductive Contact where
  | refused (call : Call) (request : Request)
  | taken (call : Call) (request : Request)
  | ended
deriving DecidableEq, Repr

namespace Contact

def issue? : Contact → Option (Call × Request)
  | .refused call request => some (call, request)
  | .taken call request => some (call, request)
  | .ended => none

def count (underWay : Nat) : Contact → Nat
  | .refused _ _ => underWay
  | .taken _ _ => underWay + 1
  | .ended => underWay - 1

end Contact

namespace Cue

def contacts (cue : Cue) (call : Call) (request : Request) : List Contact :=
  match cue.outcome with
  | .refused _ => [.refused call request]
  | _ => [.taken call request, .ended]

/-- A refusal takes no time. -/
def duration (cue : Cue) : Nat :=
  match cue.outcome with
  | .refused _ => 0
  | _ => cue.delay

end Cue

def underWay (contacts : List Contact) : Nat := contacts.foldl Contact.count 0

def mostUnderWay (contacts : List Contact) : Nat :=
  (contacts.foldl (fun (now, most) contact => (contact.count now, max most (contact.count now)))
    (0, 0)).2

/-- A store under rehearsal: the cues that are still to come, and what has passed so far. -/
structure Script where
  puts : Nat → Cue
  removals : Nat → Cue
  contacts : List Contact := []
  elapsed : Nat := 0

namespace Script

def next (script : Script) : Call → Cue × Script
  | .put => (script.puts 0, { script with puts := fun index => script.puts (index + 1) })
  | .remove =>
      (script.removals 0, { script with removals := fun index => script.removals (index + 1) })

def serve : Service Script := fun call request script =>
  let (cue, script) := script.next call
  (cue.outcome.completion?,
    { script with
      contacts := script.contacts ++ cue.contacts call request
      elapsed := script.elapsed + cue.duration })

end Script

structure Rehearsal where
  write : Write
  notices : List Notice
  script : Script

namespace Rehearsal

def issues (rehearsal : Rehearsal) : List (Call × Request) :=
  rehearsal.script.contacts.filterMap Contact.issue?

def calls (rehearsal : Rehearsal) : List Call := rehearsal.issues.map Prod.fst

def mostInFlight (rehearsal : Rehearsal) : Nat := mostUnderWay rehearsal.script.contacts

def elapsed (rehearsal : Rehearsal) : Nat := rehearsal.script.elapsed

end Rehearsal

def rehearseBy (write : Write) (puts removals : Nat → Cue) : Rehearsal :=
  let ((final, notices), script) :=
    write.run Script.serve write.callsLeft { puts := puts, removals := removals }
  { write := final, notices := notices, script := script }

/-- Rehearses a write with as many cues as there are; after them the store answers with nothing. -/
def rehearse (write : Write) (puts removals : List Cue) : Rehearsal :=
  write.rehearseBy (fun index => puts.getD index {}) fun index => removals.getD index {}

end Quorate.Write
