import Quorate.Time.Duration

/-!
A gate is opened at most once, with a value. Signal handles open it; it closes when the last of
them is dropped while it holds no value. Waiting is a matter of looking again: `poll` tells whether
a wait has come to its end.
-/

namespace Quorate

structure Gate (α : Type) where
  handles : Nat := 1
  value : Option α := none
deriving DecidableEq, Repr

inductive Gate.Fault where
  | closed
  | timedOut (waited : Duration)
deriving DecidableEq, Repr

def Gate.Fault.message : Gate.Fault → String
  | .closed => "gate closed before a value was published"
  | .timedOut waited => "gate not opened within " ++ waited.text

namespace Gate

variable {α : Type}

/-- Opens the gate. The answer tells whether this call did so: the first one wins. -/
def signal (gate : Gate α) (value : α) : Gate α × Bool :=
  match gate.value with
  | none => ({ gate with value := some value }, true)
  | some _ => (gate, false)

def clone (gate : Gate α) : Gate α := { gate with handles := gate.handles + 1 }

def drop (gate : Gate α) : Gate α := { gate with handles := gate.handles - 1 }

def peek (gate : Gate α) : Option α := gate.value

def isOpen (gate : Gate α) : Bool := gate.value.isSome

/-- The end of a wait without a deadline, if it has come. -/
def poll (gate : Gate α) : Option (Except Fault α) :=
  match gate.value with
  | some value => some (.ok value)
  | none => if gate.handles = 0 then some (.error .closed) else none

/-- The end of a wait with a deadline. The gate is looked at first, so one that is open counts as
open even when the time is up. -/
def pollUntil (gate : Gate α) (expired : Bool) (waited : Duration) : Option (Except Fault α) :=
  match gate.poll with
  | some result => some result
  | none => if expired then some (.error (.timedOut waited)) else none

variable (gate : Gate α)

theorem signal_of_peek_none (empty : gate.peek = none) (value : α) :
    gate.signal value = ({ gate with value := some value }, true) := by
  unfold peek at empty
  unfold signal
  rw [empty]

theorem signal_of_peek_some {present : α} (opened : gate.peek = some present) (value : α) :
    gate.signal value = (gate, false) := by
  unfold peek at opened
  unfold signal
  rw [opened]

theorem poll_eq_ok_iff (value : α) : gate.poll = some (.ok value) ↔ gate.peek = some value := by
  unfold poll peek
  cases gate.value with
  | some present => simp
  | none =>
      by_cases left : gate.handles = 0
      · simp [left]
      · simp [left]

/-- A wait without a deadline can only fail because the gate is closed. -/
theorem poll_eq_error_iff (fault : Fault) :
    gate.poll = some (.error fault) ↔
      gate.peek = none ∧ gate.handles = 0 ∧ fault = .closed := by
  unfold poll peek
  cases gate.value with
  | some present => simp
  | none =>
      by_cases left : gate.handles = 0
      · simp [left, eq_comm]
      · simp [left]

theorem poll_eq_none_iff : gate.poll = none ↔ gate.peek = none ∧ gate.handles ≠ 0 := by
  unfold poll peek
  cases gate.value with
  | some present => simp
  | none =>
      by_cases left : gate.handles = 0
      · simp [left]
      · simp [left]

/-- Before its deadline a wait is like one without. -/
theorem pollUntil_false (waited : Duration) : gate.pollUntil false waited = gate.poll := by
  unfold pollUntil
  cases gate.poll with
  | none => rfl
  | some result => rfl

end Gate
end Quorate
