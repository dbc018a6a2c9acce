/-!
Floating-point numbers of 64 bits, read off their bit patterns: sign, exponent, fraction, the
numerical order that both zeros share and that leaves out what is no number, and the nearest whole
number.
-/

namespace Quorate.Binary64

/-- The weight of the sign bit: two to the power 63. -/
def signWeight : Nat := 9223372036854775808

/-- The number of fractions: two to the power 52. -/
def fractionSize : Nat := 4503599627370496

def signBit (value : Float) : Bool := value.toBits.toNat / signWeight = 1

def magnitude (value : Float) : Nat := value.toBits.toNat % signWeight

def exponentField (value : Float) : Nat := magnitude value / fractionSize

def fractionField (value : Float) : Nat := magnitude value % fractionSize

/-- The pattern of infinity; above it lie the patterns that are no numbers. -/
def infiniteMagnitude : Nat := 2047 * fractionSize

def isNumber (value : Float) : Bool := magnitude value ≤ infiniteMagnitude

/-- Grows with the numerical value. -/
def orderKey (value : Float) : Int :=
  if signBit value then -(magnitude value : Int) else magnitude value

/-- Numerical comparison. What is no number compares with nothing. -/
def atMost (left right : Float) : Bool :=
  isNumber left && isNumber right && decide (orderKey left ≤ orderKey right)

theorem atMost_trans {first second third : Float}
    (lower : atMost first second = true) (upper : atMost second third = true) :
    atMost first third = true := by
  simp only [atMost, Bool.and_eq_true, decide_eq_true_eq] at lower upper ⊢
  exact ⟨⟨lower.1.1, upper.1.2⟩, Int.le_trans lower.2 upper.2⟩

/-- A finite positive number: `significand` times two to the power `exponent`. -/
structure Parts where
  significand : Nat
  exponent : Int
  /-- The gap below is half of the gap above. -/
  lowGapHalved : Bool

def parts (value : Float) : Parts :=
  let exponent := exponentField value
  let fraction := fractionField value
  if exponent = 0 then ⟨fraction, -1074, false⟩
  else ⟨fractionSize + fraction, (exponent : Int) - 1075, fraction = 0 && 1 < exponent⟩

/-- The whole number nearest to a finite magnitude; a half goes up. -/
def Parts.nearestNat (parts : Parts) : Nat :=
  if 0 ≤ parts.exponent then parts.significand * Nat.pow 2 parts.exponent.toNat
  else
    let unit := Nat.pow 2 (-parts.exponent).toNat
    (2 * parts.significand + unit) / (2 * unit)

/-- Rounds and then brings the result into range. What is no number counts as zero. -/
def toNatUpTo (greatest : Nat) (value : Float) : Nat :=
  if !isNumber value || signBit value then 0
  else if magnitude value = infiniteMagnitude then greatest
  else min greatest (parts value).nearestNat

end Quorate.Binary64
