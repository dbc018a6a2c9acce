import Mathlib
import Quorate.Binary64.Order

/-!
The order read off bit patterns is the order of floating-point numbers: `atMost` decides `≤`.

Floating-point comparison unpacks a pattern to a sign, a significand and an exponent, or to one of
the special values, and compares numbers of one sign by exponent first and significand second. As
the exponent stands above the fraction in a pattern, and as only the least exponent has
significands without a leading bit, that is the order of the patterns as numbers.
-/

namespace Quorate.Binary64

open Float.Model (UnpackedFloat Format)
open Float.Model.UnpackedFloat (Sign unpackSign unpackExponent unpackMantissa)

/-! ### The fields of a pattern -/

abbrev pattern (value : Float) : BitVec (Format.numBits .binary64) := value.toModel.toBits.toBitVec

def signOf (value : Float) : Sign := if signBit value then .negative else .positive

private theorem ofBitVec_unpackSign (value : Float) :
    Sign.ofBitVec (unpackSign (pattern value)) = signOf value := by
  have sign : (unpackSign (pattern value)).toNat = value.toBits.toNat / signWeight := by
    have bound := value.toModel.toBits.toNat_lt
    simp [unpackSign, signWeight, Float.toBits, Nat.shiftRight_eq_div_pow]
    omega
  have bit : value.toBits.toNat / signWeight = 0 ∨ value.toBits.toNat / signWeight = 1 := by
    have bound := value.toBits.toNat_lt
    simp only [signWeight]
    omega
  rcases bit with bit | bit <;>
    simp [Sign.ofBitVec, signOf, signBit, ← BitVec.toNat_inj, sign, bit]

private theorem toNat_unpackExponent (value : Float) :
    (unpackExponent (pattern value)).toNat = exponentField value := by
  simp [unpackExponent, exponentField, magnitude, signWeight, fractionSize, Float.toBits,
    Nat.shiftRight_eq_div_pow]
  omega

private theorem toNat_unpackMantissa (value : Float) :
    (unpackMantissa (pattern value)).toNat = fractionField value := by
  simp [unpackMantissa, fractionField, magnitude, signWeight, fractionSize, Float.toBits]

private theorem fractionField_lt (value : Float) : fractionField value < fractionSize :=
  Nat.mod_lt _ (by decide)

private theorem exponentField_lt (value : Float) : exponentField value < 2048 := by
  simp only [exponentField, magnitude, signWeight, fractionSize]
  omega

private theorem magnitude_eq (value : Float) :
    magnitude value = exponentField value * fractionSize + fractionField value := by
  simp only [exponentField, fractionField]
  exact (Nat.div_add_mod' _ _).symm

/-! ### The unpacked form -/

def leastExponent : Int := -1074

private theorem unpack_eq (value : Float) :
    value.toModel.unpack =
      if exponentField value = 2047 then
        if fractionField value = 0 then .infinity (signOf value) else .notANumber
      else if exponentField value = 0 then
        if zero : fractionField value = 0 then .zero (signOf value)
        else .finite (signOf value) (fractionField value) leastExponent (Nat.pos_of_ne_zero zero)
      else
        .finite (signOf value) (fractionSize + fractionField value)
          (leastExponent + (exponentField value - 1)) (Nat.add_pos_left (by decide) _) := by
  have significand : (1#1 ++ unpackMantissa (pattern value)).toNat =
      fractionSize + fractionField value := by
    rw [BitVec.toNat_append, toNat_unpackMantissa, ← Nat.shiftLeft_add_eq_or_of_lt]
    · rfl
    · exact fractionField_lt value
  have exponent : (exponentField value : Int) - (Format.binary64.exponentBias + (52 : Nat)) =
      leastExponent + (exponentField value - 1) := by
    have bias : Format.binary64.exponentBias = 1023 := rfl
    simp only [bias, leastExponent]
    omega
  have top : (-1#11).toNat = 2047 := rfl
  simp only [Float.Model.unpack, UnpackedFloat.unpack, ofBitVec_unpackSign, ← BitVec.toNat_inj,
    toNat_unpackExponent, toNat_unpackMantissa, significand, exponent, top, BitVec.toNat_ofNat,
    Nat.zero_mod]
  split_ifs with isTop noFraction isLeast isZero
  · rfl
  · rfl
  · rfl
  · congr 1
    simp only [isLeast]
    rfl
  · rfl

/-! ### Keys of unpacked numbers -/

/-- What unpacking makes of a finite number: all 53 bits of the significand are in use unless the
exponent is the least one, and the exponent stays below that of infinity. -/
def Canonical : UnpackedFloat → Prop
  | .finite _ significand exponent _ =>
      significand < 2 * fractionSize ∧ leastExponent ≤ exponent ∧ exponent ≤ 971 ∧
        (exponent = leastExponent ∨ fractionSize ≤ significand)
  | _ => True

def packed (significand : Nat) (exponent : Int) : Nat :=
  (exponent - leastExponent).toNat * fractionSize + significand

def keyOf : UnpackedFloat → Int
  | .infinity sign => sign.apply infiniteMagnitude
  | .notANumber => 0
  | .zero _ => 0
  | .finite sign significand exponent _ => sign.apply (packed significand exponent)

private theorem canonical_unpack (value : Float) : Canonical value.toModel.unpack := by
  have fraction := fractionField_lt value
  have field := exponentField_lt value
  rw [unpack_eq]
  split_ifs with isTop noFraction isLeast isZero
  · trivial
  · trivial
  · trivial
  · exact ⟨by omega, Int.le_refl _, by decide, .inl rfl⟩
  · simp only [Canonical, leastExponent]
    omega

private theorem isNumber_iff (value : Float) :
    isNumber value = true ↔
      exponentField value < 2047 ∨ exponentField value = 2047 ∧ fractionField value = 0 := by
  have fraction := fractionField_lt value
  simp only [isNumber, decide_eq_true_eq, magnitude_eq, infiniteMagnitude]
  simp only [fractionSize] at *
  omega

private theorem unpack_eq_notANumber_iff (value : Float) :
    value.toModel.unpack = .notANumber ↔ isNumber value = false := by
  have fraction := fractionField_lt value
  have field := exponentField_lt value
  rw [← Bool.not_eq_true, isNumber_iff, unpack_eq]
  split_ifs with isTop noFraction isLeast isZero <;> simp <;> omega

private theorem sign_apply (value : Float) :
    (signOf value).apply (magnitude value) = orderKey value := by
  simp only [signOf, orderKey]
  split <;> rfl

private theorem keyOf_unpack {value : Float} (number : isNumber value = true) :
    keyOf value.toModel.unpack = orderKey value := by
  rw [← sign_apply, magnitude_eq, unpack_eq]
  rw [isNumber_iff] at number
  split_ifs with isTop noFraction isLeast isZero
  · simp [keyOf, isTop, noFraction, infiniteMagnitude]
  · omega
  · cases signOf value <;> simp [keyOf, isLeast, isZero, Sign.apply]
  · simp [keyOf, isLeast, packed]
  · have exponent : (leastExponent + ((exponentField value : Int) - 1) - leastExponent).toNat + 1 =
        exponentField value := by
      omega
    have lead : packed (fractionSize + fractionField value)
        (leastExponent + ((exponentField value : Int) - 1)) =
          exponentField value * fractionSize + fractionField value := by
      rw [packed, ← Nat.add_assoc, ← Nat.succ_mul, Nat.succ_eq_add_one, exponent]
    rw [keyOf, lead]

/-! ### Comparison -/

section Comparison
variable {sign sign' : Sign} {significand significand' : Nat} {exponent exponent' : Int}
  {positive : 0 < significand} {positive' : 0 < significand'}

private theorem packed_lt_packed (bound : significand < 2 * fractionSize)
    (least : leastExponent ≤ exponent) (lead : fractionSize ≤ significand')
    (lower : exponent < exponent') :
    packed significand exponent < packed significand' exponent' := by
  have step : (exponent - leastExponent).toNat + 1 ≤ (exponent' - leastExponent).toNat := by omega
  calc packed significand exponent
      < (exponent - leastExponent).toNat * fractionSize + 2 * fractionSize :=
        Nat.add_lt_add_left bound _
    _ = ((exponent - leastExponent).toNat + 1) * fractionSize + fractionSize := by
        rw [Nat.add_mul, Nat.two_mul, Nat.one_mul, Nat.add_assoc]
    _ ≤ packed significand' exponent' := Nat.add_le_add (Nat.mul_le_mul_right _ step) lead

private theorem compare_packed (left : Canonical (.finite sign significand exponent positive))
    (right : Canonical (.finite sign' significand' exponent' positive')) :
    (compare exponent exponent').then (compare significand significand') =
      compare (packed significand exponent : Int) (packed significand' exponent') := by
  obtain ⟨bound, least, -, lead⟩ := left
  obtain ⟨bound', least', -, lead'⟩ := right
  rcases Int.lt_trichotomy exponent exponent' with lower | rfl | higher
  · have := packed_lt_packed bound least (lead'.resolve_left (by omega)) lower
    rw [Int.compare_eq_lt.mpr lower, Int.compare_eq_lt.mpr (by omega)]
    rfl
  · rw [Int.compare_eq_eq.mpr rfl, Ordering.eq_then, Nat.compare_eq_ite_lt, Int.compare_eq_ite_lt]
    simp [packed]
  · have := packed_lt_packed bound' least' (lead.resolve_left (by omega)) higher
    rw [Int.compare_eq_gt.mpr higher, Int.compare_eq_gt.mpr (by omega)]
    rfl

private theorem keyOf_positive : 0 < keyOf (.finite .positive significand exponent positive) := by
  simp only [keyOf, Sign.apply, packed]
  omega

private theorem keyOf_negative : keyOf (.finite .negative significand exponent positive) < 0 := by
  simp only [keyOf, Sign.apply, packed]
  omega

private theorem keyOf_finite (finite : Canonical (.finite sign significand exponent positive)) :
    -(infiniteMagnitude : Int) < keyOf (.finite sign significand exponent positive) ∧
      keyOf (.finite sign significand exponent positive) < infiniteMagnitude := by
  obtain ⟨bound, -, top, -⟩ := finite
  have below : (exponent - leastExponent).toNat ≤ 2045 := by
    simp only [leastExponent]
    omega
  have bounded : packed significand exponent < infiniteMagnitude := by
    have := Nat.mul_le_mul_right fractionSize below
    simp only [packed, infiniteMagnitude]
    omega
  cases sign <;> simp only [keyOf, Sign.apply] <;> omega

private theorem compare_eq_keys {left right : UnpackedFloat} (canonical : Canonical left)
    (canonical' : Canonical right) (number : left ≠ .notANumber) (number' : right ≠ .notANumber) :
    left.compare right = some (compare (keyOf left) (keyOf right)) := by
  have lt {left right : Int} (lower : left < right) : some .lt = some (compare left right) :=
    congrArg some (Int.compare_eq_lt.mpr lower).symm
  have gt {left right : Int} (higher : right < left) : some .gt = some (compare left right) :=
    congrArg some (Int.compare_eq_gt.mpr higher).symm
  cases left with
  | notANumber => contradiction
  | infinity sign =>
    cases right with
    | notANumber => contradiction
    | infinity sign' => cases sign <;> cases sign' <;> rfl
    | zero sign' => cases sign <;> rfl
    | finite sign' significand' exponent' positive' =>
      cases sign with
      | positive => exact gt (keyOf_finite canonical').2
      | negative => exact lt (keyOf_finite canonical').1
  | zero sign =>
    cases right with
    | notANumber => contradiction
    | infinity sign' => cases sign' <;> rfl
    | zero sign' => rfl
    | finite sign' significand' exponent' positive' =>
      cases sign' with
      | positive => exact lt keyOf_positive
      | negative => exact gt keyOf_negative
  | finite sign significand exponent positive =>
    cases right with
    | notANumber => contradiction
    | infinity sign' =>
      cases sign' with
      | positive => cases sign <;> exact lt (keyOf_finite canonical).2
      | negative => cases sign <;> exact gt (keyOf_finite canonical).1
    | zero sign' =>
      cases sign with
      | positive => exact gt keyOf_positive
      | negative => exact lt keyOf_negative
    | finite sign' significand' exponent' positive' =>
      cases sign with
      | positive =>
        cases sign' with
        | positive => exact congrArg some (compare_packed canonical canonical')
        | negative => exact gt (Int.lt_trans keyOf_negative keyOf_positive)
      | negative =>
        cases sign' with
        | positive => exact lt (Int.lt_trans keyOf_negative keyOf_positive)
        | negative =>
          -- between negative numbers the order of the patterns is turned round
          simp only [UnpackedFloat.compare, compare_packed canonical canonical', Int.compare_swap]
          simp only [keyOf, Sign.apply, Int.compare_eq_ite_lt, Int.neg_lt_neg_iff]

end Comparison

private theorem compare_notANumber (left : UnpackedFloat) : left.compare .notANumber = none := by
  cases left <;> rfl

/-- The order that is read off the patterns is the order of floating-point numbers. -/
theorem atMost_iff_le (left right : Float) : atMost left right = true ↔ left ≤ right := by
  have le_iff : left ≤ right ↔
      (left.toModel.unpack.compare right.toModel.unpack).any (·.isLE) = true :=
    decide_eq_true_iff
  rw [le_iff]
  by_cases number : isNumber left = true
  · by_cases number' : isNumber right = true
    · have compared := compare_eq_keys (canonical_unpack left) (canonical_unpack right)
        (by simp [unpack_eq_notANumber_iff, number]) (by simp [unpack_eq_notANumber_iff, number'])
      simp [atMost, number, number', compared, keyOf_unpack, Int.isLE_compare]
    · have strange := (unpack_eq_notANumber_iff right).mpr (Bool.not_eq_true _ ▸ number')
      simp [atMost, number', strange, compare_notANumber]
  · have strange := (unpack_eq_notANumber_iff left).mpr (Bool.not_eq_true _ ▸ number)
    simp [atMost, number, strange, UnpackedFloat.compare]

protected theorem le_trans {first second third : Float} (lower : first ≤ second)
    (upper : second ≤ third) : first ≤ third := by
  rw [← atMost_iff_le] at *
  exact atMost_trans lower upper

protected theorem le_of_lt {left right : Float} (lower : left < right) : left ≤ right := by
  have compared : (left.toModel.unpack.compare right.toModel.unpack == some .lt) = true :=
    of_decide_eq_true lower
  have less : left.toModel.unpack.compare right.toModel.unpack = some .lt := by simpa using compared
  have weaker : (left.toModel.unpack.compare right.toModel.unpack).any (·.isLE) = true := by
    rw [less]
    rfl
  exact decide_eq_true weaker

end Quorate.Binary64
