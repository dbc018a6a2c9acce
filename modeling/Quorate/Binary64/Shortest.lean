import Quorate.Binary64.Order
import Quorate.Text.Numeral

/-!
The shortest decimal text that reads back as a given number. A number stands for the interval of
reals that round to it, whose ends belong to it when its significand is even. For 1, 2, … 17 digits
the two neighbours of the value on the grid of that many digits are tried; the first grid with a
neighbour inside the interval wins, of two the nearer one, and of two equally near the greater.
-/

namespace Quorate.Binary64

structure Interval where
  low : Nat
  value : Nat
  high : Nat
  denominator : Nat
  closed : Bool

def interval (parts : Parts) : Interval :=
  let value := 4 * parts.significand
  let low := if parts.lowGapHalved then value - 1 else value - 2
  let high := value + 2
  let closed := parts.significand % 2 = 0
  let shift := parts.exponent - 2
  if 0 ≤ shift then
    let scale := Nat.pow 2 shift.toNat
    ⟨low * scale, value * scale, high * scale, 1, closed⟩
  else ⟨low, value, high, Nat.pow 2 (-shift).toNat, closed⟩

structure Decimal where
  digits : Nat
  exponent : Int

def Decimal.fraction (decimal : Decimal) (denominator : Nat) : Nat × Nat :=
  if 0 ≤ decimal.exponent then (decimal.digits * Nat.pow 10 decimal.exponent.toNat * denominator, 1)
  else (decimal.digits * denominator, Nat.pow 10 (-decimal.exponent).toNat)

def Interval.contains (interval : Interval) (decimal : Decimal) : Bool :=
  let (numerator, divisor) := decimal.fraction interval.denominator
  if interval.closed then
    interval.low * divisor ≤ numerator && numerator ≤ interval.high * divisor
  else interval.low * divisor < numerator && numerator < interval.high * divisor

/-- The least power of ten, up to the given bound, that brings a fraction to at least one. -/
def stepsToOne (numerator denominator : Nat) : Nat → Nat
  | 0 => 0
  | bound + 1 =>
      if denominator ≤ numerator then 0 else stepsToOne (numerator * 10) denominator bound + 1

def Interval.leading (interval : Interval) : Int :=
  if interval.denominator ≤ interval.value then
    ((Text.decimal (interval.value / interval.denominator)).length : Int) - 1
  else -(stepsToOne interval.value interval.denominator 400 : Int)

def Interval.neighbours (interval : Interval) (exponent : Int) : Decimal × Decimal :=
  let below :=
    if 0 ≤ exponent then interval.value / (interval.denominator * Nat.pow 10 exponent.toNat)
    else interval.value * Nat.pow 10 (-exponent).toNat / interval.denominator
  (⟨below, exponent⟩, ⟨below + 1, exponent⟩)

def Interval.nearerFirst (interval : Interval) (below above : Decimal) : Bool :=
  let (low, divisor) := below.fraction interval.denominator
  let (high, _) := above.fraction interval.denominator
  2 * interval.value * divisor < low + high

def Interval.tryGrid (interval : Interval) (exponent : Int) : Option Decimal :=
  let (below, above) := interval.neighbours exponent
  match interval.contains below, interval.contains above with
  | true, true => some (if interval.nearerFirst below above then below else above)
  | true, false => some below
  | false, true => some above
  | false, false => none

/-- Tries grids of ever more digits; the first argument is the number of grids left. -/
def Interval.search (interval : Interval) : Nat → Int → Decimal
  | 0, exponent => (interval.neighbours exponent).1
  | left + 1, exponent =>
      match interval.tryGrid exponent with
      | some decimal => decimal
      | none => interval.search left (exponent - 1)

def Decimal.trim : Nat → Decimal → Decimal
  | 0, decimal => decimal
  | zeros + 1, decimal =>
      if decimal.digits % 10 = 0 then trim zeros ⟨decimal.digits / 10, decimal.exponent + 1⟩
      else decimal

def shortest (value : Float) : Decimal :=
  let interval := interval (parts value)
  (interval.search 17 interval.leading).trim 17

/-- Positional notation without an exponent, and without a point for a whole number. -/
def Decimal.positional (decimal : Decimal) : List Char :=
  let digits := Text.decimal decimal.digits
  if 0 ≤ decimal.exponent then digits ++ List.replicate decimal.exponent.toNat '0'
  else
    let places := (-decimal.exponent).toNat
    let padded := List.replicate (places + 1 - digits.length) '0' ++ digits
    padded.take (padded.length - places) ++ '.' :: padded.drop (padded.length - places)

def text (value : Float) : String :=
  if isNumber value then
    let sign := if signBit value then ['-'] else []
    let body :=
      if magnitude value = infiniteMagnitude then ['i', 'n', 'f']
      else if magnitude value = 0 then ['0']
      else (shortest value).positional
    String.ofList (sign ++ body)
  else "NaN"

end Quorate.Binary64
