import Quorate.Text.Blank
import Quorate.Text.Numeral

/-!
Spans of time, the texts that stand for them, and the grammar in which they are given:
a decimal numeral followed by one of ms, s, m and h.
-/

namespace Quorate

/-- A span of time in whole nanoseconds. -/
structure Duration where
  nanos : Nat
deriving DecidableEq, Repr

namespace Duration

def ofMillis (millis : Nat) : Duration := ⟨millis * 1000000⟩

def ofMicros (micros : Nat) : Duration := ⟨micros * 1000⟩

def ofSeconds (seconds : Nat) : Duration := ⟨seconds * 1000000000⟩

instance : Add Duration := ⟨fun left right => ⟨left.nanos + right.nanos⟩⟩

/-- Whole milliseconds, rounded down. -/
def millis (duration : Duration) : Nat := duration.nanos / 1000000

/-- Milliseconds after which a timer for this span fires: timers have no finer grain, so a part
of a millisecond counts as a whole one. -/
def ticks (duration : Duration) : Nat := (duration.nanos + 999999) / 1000000

/-- A fraction of the given number of places, without zeros at its end; nothing if it is zero. -/
def fractionText (places fraction : Nat) : List Char :=
  if fraction = 0 then []
  else
    let digits := Text.decimal fraction
    let padded := List.replicate (places - digits.length) '0' ++ digits
    '.' :: (padded.reverse.dropWhile (· == '0')).reverse

/-- The span in the largest of the units s, ms, µs and ns that does not exceed it, exactly. -/
def text (duration : Duration) : String :=
  let nanos := duration.nanos
  let amount (unit places : Nat) : List Char :=
    Text.decimal (nanos / unit) ++ fractionText places (nanos % unit)
  if 1000000000 ≤ nanos then String.ofList (amount 1000000000 9 ++ ['s'])
  else if 1000000 ≤ nanos then String.ofList (amount 1000000 6 ++ ['m', 's'])
  else if 1000 ≤ nanos then String.ofList (amount 1000 3 ++ ['µ', 's'])
  else String.ofList (Text.decimal nanos ++ ['n', 's'])

inductive Fault where
  | empty
  | missingUnit (text : String)
  | invalidNumber (text : String)
  | unknownUnit (unit : String)
  | outOfRange (text : String)
deriving DecidableEq, Repr

def Fault.message : Fault → String
  | .empty => "empty duration"
  | .missingUnit text => "missing duration unit: " ++ text
  | .invalidNumber text => "invalid duration: " ++ text
  | .unknownUnit unit => "unknown duration unit: " ++ unit
  | .outOfRange text => "duration out of range: " ++ text

/-- Seconds from a number of larger units, if they fit a word of 64 bits. -/
def scaled (text : String) (number factor : Nat) : Except Fault Duration :=
  if number * factor < UInt64.size then .ok (ofSeconds (number * factor))
  else .error (.outOfRange text)

/-- The unit is judged only after the numeral. -/
def ofParts (text : String) (numeral unit : List Char) : Except Fault Duration :=
  match Text.readDecimalBelow UInt64.size numeral with
  | none => .error (.invalidNumber text)
  | some number =>
      if unit = ['m', 's'] then .ok (ofMillis number)
      else if unit = ['s'] then .ok (ofSeconds number)
      else if unit = ['m'] then scaled text number 60
      else if unit = ['h'] then scaled text number 3600
      else .error (.unknownUnit (String.ofList unit))

def parse (text : String) : Except Fault Duration :=
  let trimmed := Text.trim text.toList
  if trimmed.isEmpty then .error .empty
  else
    let unit := trimmed.dropWhile Char.isDigit
    if unit.isEmpty then .error (.missingUnit (String.ofList trimmed))
    else ofParts (String.ofList trimmed) (trimmed.takeWhile Char.isDigit) unit

end Duration
end Quorate
