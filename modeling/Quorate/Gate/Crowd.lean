import Quorate.Gate

/-!
The crowd at one gate, one step at a time and in any order. Some hold signal handles, which they
signal with, clone and drop; others wait, with a deadline or without one. The waiting side and its
clones have no state of their own: whoever waits or peeks looks at the gate. A wait is looked at
again and again, at any times, until it has come to its end.
-/

namespace Quorate.Gate

/-- A wait, no longer than the timeout if there is one. -/
structure Wait (α : Type) where
  timeout : Option Duration := none
  started : Nat := 0
  result : Option (Except Fault α) := none
deriving Repr

structure Crowd (α : Type) where
  gate : Gate α := {}
  clock : Nat := 0
  /-- Which of the signal handles are still held, of all that were ever made. -/
  handles : List Bool := [true]
  waits : List (Wait α) := []
  /-- All that was ever signalled, and the answers. -/
  signals : List (α × Bool) := []
deriving Repr

inductive Crowd.Move (α : Type) where
  | signal (handle : Nat) (value : α)
  | clone (handle : Nat)
  | drop (handle : Nat)
  | wait (timeout : Option Duration)
  | look (wait : Nat)
  | elapse (ticks : Nat)
deriving DecidableEq, Repr

variable {α : Type}

namespace Wait

/-- The end of the wait, if it has come. -/
def poll (wait : Wait α) (gate : Gate α) (now : Nat) : Option (Except Fault α) :=
  match wait.timeout with
  | none => gate.poll
  | some timeout => gate.pollUntil (wait.started + timeout.ticks ≤ now) timeout

/-- Looks whether the wait has come to its end, if it had not before. -/
def look (gate : Gate α) (now : Nat) (wait : Wait α) : Wait α :=
  match wait.result with
  | none => { wait with result := wait.poll gate now }
  | some _ => wait

end Wait

namespace Crowd

variable (crowd : Crowd α)

def holds (handle : Nat) : Bool := crowd.handles.getD handle false

/-- A handle that was dropped cannot signal any more. -/
def signal (handle : Nat) (value : α) : Crowd α :=
  if crowd.holds handle then
    let (gate, first) := crowd.gate.signal value
    { crowd with gate := gate, signals := crowd.signals ++ [(value, first)] }
  else crowd

def clone (handle : Nat) : Crowd α :=
  if crowd.holds handle then
    { crowd with gate := crowd.gate.clone, handles := crowd.handles ++ [true] }
  else crowd

def drop (handle : Nat) : Crowd α :=
  if crowd.holds handle then
    { crowd with gate := crowd.gate.drop, handles := crowd.handles.set handle false }
  else crowd

def step (crowd : Crowd α) : Move α → Crowd α
  | .signal handle value => crowd.signal handle value
  | .clone handle => crowd.clone handle
  | .drop handle => crowd.drop handle
  | .wait timeout =>
      { crowd with waits := crowd.waits ++ [{ timeout := timeout, started := crowd.clock }] }
  | .look wait =>
      { crowd with waits := crowd.waits.modify wait (Wait.look crowd.gate crowd.clock) }
  | .elapse ticks => { crowd with clock := crowd.clock + ticks }

def run (moves : List (Move α)) (crowd : Crowd α) : Crowd α := moves.foldl step crowd

variable {crowd : Crowd α} {handle : Nat}

theorem signal_of_holds (held : crowd.holds handle = true) (value : α) :
    crowd.signal handle value =
      { crowd with
        gate := (crowd.gate.signal value).1
        signals := crowd.signals ++ [(value, (crowd.gate.signal value).2)] } := if_pos held

theorem clone_of_holds (held : crowd.holds handle = true) :
    crowd.clone handle =
      { crowd with gate := crowd.gate.clone, handles := crowd.handles ++ [true] } := if_pos held

theorem drop_of_holds (held : crowd.holds handle = true) :
    crowd.drop handle =
      { crowd with gate := crowd.gate.drop, handles := crowd.handles.set handle false } :=
  if_pos held

end Crowd
end Quorate.Gate
