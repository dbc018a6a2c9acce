import Quorate.Text.Numeral
import Quorate.Toml.Basic

/-!
Dates and times of TOML: a date, a time, or a date and a time with or without an offset. They are
kept in one form: a `T` between date and time, a `Z` for no offset, and no zeros at the end of a
fraction.
-/

namespace Quorate.Toml

def readPair (greatest : Nat) : List Char → Option (Nat × List Char)
  | first :: second :: rest =>
      if first.isDigit && second.isDigit && Text.decimalValue [first, second] ≤ greatest then
        some (Text.decimalValue [first, second], rest)
      else none
  | _ => none

def isLeapYear (year : Nat) : Bool := year % 4 = 0 && (year % 100 ≠ 0 || year % 400 = 0)

def daysOf (year month : Nat) : Nat :=
  if month = 2 then if isLeapYear year then 29 else 28
  else if month = 4 ∨ month = 6 ∨ month = 9 ∨ month = 11 then 30
  else 31

def readDate (word : List Char) : Option (List Char × List Char) := do
  let digits := word.take 4
  let year ← if digits.length = 4 then Text.readDecimal digits else none
  match word.drop 4 with
  | '-' :: rest =>
      let (month, rest) ← readPair 12 rest
      match rest with
      | '-' :: rest =>
          let (day, rest) ← readPair (daysOf year month) rest
          if month = 0 ∨ day = 0 then none else some (word.take 10, rest)
      | _ => none
  | _ => none

/-- The digits of a fraction of a second as it is shown, down to nanoseconds. -/
def shownFraction (digits : List Char) : List Char :=
  let shown := ((digits.take 9).reverse.dropWhile (· == '0')).reverse
  if shown.isEmpty then ['.', '0'] else '.' :: shown

/-- Takes a time from the front of a word. The seconds may be left out. -/
def readTime (word : List Char) : Option (List Char × List Char) := do
  let (_, rest) ← readPair 23 word
  match rest with
  | ':' :: rest =>
      let (_, rest) ← readPair 59 rest
      match rest with
      | ':' :: rest =>
          let (_, rest) ← readPair 60 rest
          match rest with
          | '.' :: rest =>
              let digits := rest.takeWhile Char.isDigit
              if digits.isEmpty then none
              else some (word.take 8 ++ shownFraction digits, rest.dropWhile Char.isDigit)
          | rest => some (word.take 8, rest)
      | rest => some (word.take 5, rest)
  | _ => none

def readOffset : List Char → Option (List Char)
  | [] => some []
  | [mark] => if mark = 'Z' ∨ mark = 'z' then some ['Z'] else none
  | mark :: rest => do
      let (hours, afterHours) ← readPair 23 rest
      match afterHours with
      | ':' :: afterColon =>
          let (minutes, afterMinutes) ← readPair 59 afterColon
          let sign := if hours = 0 ∧ minutes = 0 then '+' else mark
          if afterMinutes.isEmpty ∧ (mark = '+' ∨ mark = '-') then some (sign :: rest) else none
      | _ => none

def readMoment (word : List Char) : Option Toml :=
  let shown : Option (List Char) :=
    match readDate word with
    | some (date, []) => some date
    | some (date, mark :: rest) =>
        if mark = 'T' ∨ mark = 't' ∨ mark = ' ' then do
          let (time, rest) ← readTime rest
          let offset ← readOffset rest
          pure (date ++ 'T' :: (time ++ offset))
        else none
    | none =>
        match readTime word with
        | some (time, []) => some time
        | _ => none
  shown.map fun shown => .moment (String.ofList shown)

/-- Whether a word is a date that a time may follow after a blank. -/
def isDate (word : List Char) : Bool :=
  match readDate word with
  | some (_, []) => true
  | _ => false

end Quorate.Toml
