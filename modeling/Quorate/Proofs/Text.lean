import Mathlib.Data.List.TakeWhile
import Quorate.Text.Blank
import Quorate.Text.Numeral

/-!
Trimming, which takes the blanks off both ends of a text and no others, and decimal numerals, which
are read as what they are worth.
-/

namespace Quorate.Text

/-! ### Trimming -/

def Blank (text : List Char) : Prop := ∀ character ∈ text, isBlank character = true

def Bare (text : List Char) : Prop :=
  (∀ character ∈ text.head?, isBlank character = false) ∧
    ∀ character ∈ text.getLast?, isBlank character = false

instance (text : List Char) : Decidable (Blank text) := List.decidableBAll _ text

theorem exists_eq_append_trim (text : List Char) :
    ∃ lead trail, Blank lead ∧ Blank trail ∧ text = lead ++ trim text ++ trail := by
  have parted : ∀ text : List Char,
      ∃ lead, Blank lead ∧ text = lead ++ text.dropWhile isBlank := by
    intro text
    refine ⟨text.takeWhile isBlank, ?_, List.takeWhile_append_dropWhile.symm⟩
    intro character present
    exact List.mem_takeWhile_imp present
  obtain ⟨lead, blank, split⟩ := parted text
  obtain ⟨tail, blankTail, splitTail⟩ := parted (text.dropWhile isBlank).reverse
  refine ⟨lead, tail.reverse, blank, ?_, ?_⟩
  · intro character present
    exact blankTail character (List.mem_reverse.mp present)
  · have turned := congrArg List.reverse splitTail
    rw [List.reverse_reverse, List.reverse_append] at turned
    rw [List.append_assoc]
    unfold trim
    rw [← turned]
    exact split

private theorem dropWhile_of_head? {text : List Char}
    (bare : ∀ character ∈ text.head?, isBlank character = false) :
    text.dropWhile isBlank = text := by
  cases text with
  | nil => rfl
  | cons first rest =>
      exact List.dropWhile_cons_of_neg (Bool.eq_false_iff.mp (bare first rfl))

theorem trim_of_bare {lead core trail : List Char} (blank : Blank lead) (blankTrail : Blank trail)
    (bare : Bare core) (inhabited : core ≠ []) : trim (lead ++ core ++ trail) = core := by
  have front : (core ++ trail).dropWhile isBlank = core ++ trail := by
    apply dropWhile_of_head?
    obtain ⟨first, rest, rfl⟩ := List.exists_cons_of_ne_nil inhabited
    exact bare.1
  have back : core.reverse.dropWhile isBlank = core.reverse := by
    apply dropWhile_of_head?
    rw [List.head?_reverse]
    exact bare.2
  have turned : ∀ character ∈ trail.reverse, isBlank character = true :=
    fun character present => blankTrail character (List.mem_reverse.mp present)
  unfold trim
  rw [List.append_assoc, List.dropWhile_append_of_pos blank, front, List.reverse_append,
    List.dropWhile_append_of_pos turned, back, List.reverse_reverse]

theorem isBlank_of_isDigit {character : Char} (digit : character.isDigit = true) :
    isBlank character = false := by
  simp only [Char.isDigit, Bool.and_eq_true, decide_eq_true_eq, ge_iff_le] at digit
  have low : 48 ≤ character.toNat := digit.1
  have high : character.toNat ≤ 57 := digit.2
  unfold isBlank inRanges blankRanges
  simp only [List.any_cons, List.any_nil, Bool.or_false, Bool.or_eq_false_iff,
    Bool.and_eq_false_iff, decide_eq_false_iff_not]
  omega

/-! ### Decimal numerals -/

def Digits (text : List Char) : Prop := text ≠ [] ∧ ∀ character ∈ text, character.isDigit = true

instance (text : List Char) : Decidable (Digits text) :=
  @instDecidableAnd _ _ _ (List.decidableBAll _ text)

theorem digits_decimal (number : Nat) : Digits (decimal number) :=
  ⟨Nat.toDigits_ne_nil, fun _ present =>
    Nat.isDigit_of_mem_toDigits (by decide) (by decide) present⟩

theorem decimalValue_decimal (number : Nat) : decimalValue (decimal number) = number :=
  Nat.ofDigitChars_ten_toDigits

theorem readDecimal_decimal (number : Nat) : readDecimal (decimal number) = some number := by
  obtain ⟨inhabited, digits⟩ := digits_decimal number
  rw [readDecimal, if_neg (by simpa using inhabited), if_pos (List.all_eq_true.mpr digits),
    decimalValue_decimal]

theorem readDecimalBelow_eq_some_iff {bound number : Nat} {text : List Char} :
    readDecimalBelow bound text = some number ↔
      Digits text ∧ decimalValue text = number ∧ number < bound := by
  unfold readDecimalBelow readDecimal Digits
  by_cases empty : text = []
  · simp [empty]
  · by_cases digits : ∀ character ∈ text, character.isDigit = true
    · have all : text.all Char.isDigit = true := List.all_eq_true.mpr digits
      simp only [List.isEmpty_iff, empty, all, if_true, if_false, Option.filter_eq_some_iff,
        Option.some.injEq, decide_eq_true_iff, ne_eq, not_false_eq_true, true_and]
      constructor
      · rintro ⟨rfl, small⟩
        exact ⟨digits, rfl, small⟩
      · rintro ⟨_, rfl, small⟩
        exact ⟨rfl, small⟩
    · have other : ¬text.all Char.isDigit = true := fun all => digits (List.all_eq_true.mp all)
      simp [empty, other, digits]

end Quorate.Text
