import Quorate.Json.Printer
import Quorate.Json.Reader
import Quorate.Proofs.Text

/-!
Quoted texts and numerals of JSON are read as they were written, whatever follows them: a text ends
with its closing quote, a numeral where no further character belongs to it.
-/

namespace Quorate.Json

/-! ### Quoted texts -/

def pieceOf (character : Char) : Piece :=
  if character ∈ ['\x08', '\t', '\n', '\x0c', '\r'] ∨ 0x20 ≤ character.toNat then
    .character character
  else .unit character.toNat

private theorem readUnit_control :
    ∀ code < 0x20,
      readUnit '0' '0' (Text.hexDigit (code / 16)) (Text.hexDigit (code % 16)) = some code := by
  decide

private theorem readPieces_plain {character : Char} {rest : List Char} (quote : character ≠ '"')
    (backslash : character ≠ '\\') (printable : 0x20 ≤ character.toNat) :
    readPieces (character :: rest) =
      (readPieces rest).map fun (pieces, left) => (.character character :: pieces, left) := by
  rw [readPieces.eq_def]
  split
  · contradiction
  · next same => exact absurd (List.cons.inj same).1 quote
  · next same => exact absurd (List.cons.inj same).1 backslash
  · next same => exact absurd (List.cons.inj same).1 backslash
  · next same =>
      obtain ⟨rfl, rfl⟩ := List.cons.inj same
      rw [if_neg (by simp [backslash]; omega)]
      cases readPieces rest <;> rfl

private theorem readPieces_escape (character : Char) (rest : List Char) :
    readPieces (escape character ++ rest) =
      (readPieces rest).map fun (pieces, left) => (pieceOf character :: pieces, left) := by
  unfold escape
  split
  case h_8 quote backslash back tab line page turn =>
    split
    next control =>
      have none : character ∉ ['\x08', '\t', '\n', '\x0c', '\r'] := by
        simp only [List.mem_cons, List.not_mem_nil, or_false, not_or]
        exact ⟨back, tab, line, page, turn⟩
      have unit : pieceOf character = .unit character.toNat := by
        rw [pieceOf, if_neg (not_or.mpr ⟨none, Nat.not_le_of_lt control⟩)]
      simp only [List.cons_append, List.nil_append, readPieces, readUnit_control _ control, unit,
        Option.bind_eq_bind, Option.bind_some]
      cases readPieces rest <;> rfl
    next printable =>
      rw [pieceOf, if_pos (.inr (Nat.le_of_not_lt printable))]
      exact readPieces_plain quote backslash (Nat.le_of_not_lt printable)
  all_goals
    simp only [List.cons_append, List.nil_append]
    simp [readPieces, simpleEscape?, pieceOf]
    cases readPieces rest <;> rfl

private theorem readPieces_flatMap_escape (content : List Char) (rest : List Char) :
    readPieces (content.flatMap escape ++ '"' :: rest) = some (content.map pieceOf, rest) := by
  induction content with
  | nil => rfl
  | cons character content ih =>
      rw [List.flatMap_cons, List.append_assoc, readPieces_escape, ih]
      rfl

private theorem joinPieces_unit {unit : Nat} (whole : unit < 0xD800) (rest : List Piece) :
    joinPieces (.unit unit :: rest) = (joinPieces rest).map (Char.ofNat unit :: ·) := by
  have notHigh : isHighHalf unit = false := by simp [isHighHalf]; omega
  have notLow : isLowHalf unit = false := by simp [isLowHalf]; omega
  cases rest with
  | nil => simp [joinPieces, notHigh, notLow]
  | cons piece rest =>
      cases piece with
      | character character => simp [joinPieces, notHigh, notLow]
      | unit next => simp [joinPieces, notHigh, notLow]

private theorem joinPieces_map_pieceOf (content : List Char) :
    joinPieces (content.map pieceOf) = some content := by
  induction content with
  | nil => rfl
  | cons character content ih =>
      rw [List.map_cons, pieceOf]
      split
      next => rw [joinPieces, ih, Option.map_some]
      next escaped =>
        have control : character.toNat < 0x20 := Nat.lt_of_not_le (not_or.mp escaped).2
        rw [joinPieces_unit (Nat.lt_trans control (by decide)), ih, Option.map_some,
          Char.ofNat_toNat]

private theorem readText_flatMap_escape (content : String) (rest : List Char) :
    readText (content.toList.flatMap escape ++ '"' :: rest) = some (some content, rest) := by
  simp only [readText, readPieces_flatMap_escape, joinPieces_map_pieceOf, Option.map_some,
    String.ofList_toList, Option.bind_eq_bind, Option.bind_some]
  rfl

/-- Behind its opening quote a text is read as its content, or as none if it has none. -/
theorem readText_quote (content : Option String) (rest : List Char) :
    ∃ text, quote content ++ rest = '"' :: text ∧ readText text = some (content, rest) := by
  cases content with
  | some content =>
      refine ⟨content.toList.flatMap escape ++ '"' :: rest, ?_,
        readText_flatMap_escape content rest⟩
      simp [quote]
  | none => exact ⟨_, rfl, rfl⟩

/-! ### Numerals -/

/-- Some digits, and no zero in front of others. -/
def IsWhole (part : List Char) : Prop := part = ['0'] ∨ Text.Digits part ∧ part.head? ≠ some '0'

def IsFraction (part : List Char) : Prop :=
  part = [] ∨ ∃ digits, Text.Digits digits ∧ part = '.' :: digits

def IsExponent (part : List Char) : Prop :=
  part = [] ∨ ∃ mark sign digits, (mark = 'e' ∨ mark = 'E') ∧
    (sign = [] ∨ sign = ['+'] ∨ sign = ['-']) ∧ Text.Digits digits ∧ part = mark :: (sign ++ digits)

def IsNumeral (numeral : List Char) : Prop :=
  ∃ sign whole fraction exponent, (sign = [] ∨ sign = ['-']) ∧ IsWhole whole ∧
    IsFraction fraction ∧ IsExponent exponent ∧ numeral = sign ++ (whole ++ fraction ++ exponent)

def extendsNumeral (character : Char) : Bool :=
  character.isDigit || character = '.' || character = 'e' || character = 'E'

/-- What follows a numeral is no part of it. -/
def Apart (rest : List Char) : Prop := ∀ character ∈ rest.head?, extendsNumeral character = false

theorem apart_cons {character : Char} {rest : List Char}
    (other : extendsNumeral character = false) : Apart (character :: rest) := by
  intro first same
  obtain rfl := Option.some.inj same
  exact other

private theorem readDigits_append {digits rest : List Char} (some : Text.Digits digits)
    (ends : ∀ character ∈ rest.head?, character.isDigit = false) :
    readDigits (digits ++ rest) = .some (digits, rest) := by
  have taken : rest.takeWhile Char.isDigit = [] := by
    cases rest with
    | nil => rfl
    | cons first rest => exact List.takeWhile_cons_of_neg (Bool.eq_false_iff.mp (ends first rfl))
  have left : rest.dropWhile Char.isDigit = rest := by
    cases rest with
    | nil => rfl
    | cons first rest => exact List.dropWhile_cons_of_neg (Bool.eq_false_iff.mp (ends first rfl))
  unfold readDigits
  rw [List.takeWhile_append_of_pos some.2, List.dropWhile_append_of_pos some.2, taken, left,
    List.append_nil, if_neg (by simpa using some.1)]

private theorem Apart.isDigit_eq_false {rest : List Char} (apart : Apart rest) :
    ∀ character ∈ rest.head?, character.isDigit = false := by
  intro character first
  have other := apart character first
  simp only [extendsNumeral, Bool.or_eq_false_iff] at other
  exact other.1.1.1

private theorem readExponent_append {part rest : List Char} (exponent : IsExponent part)
    (apart : Apart rest) : readExponent (part ++ rest) = some (part, rest) := by
  rcases exponent with rfl | ⟨mark, sign, digits, marks, signs, some, rfl⟩
  · cases rest with
    | nil => rfl
    | cons first rest =>
        have other := apart first rfl
        simp only [extendsNumeral, Bool.or_eq_false_iff, decide_eq_false_iff_not] at other
        simp [readExponent, other.1.2, other.2]
  · have read := readDigits_append some apart.isDigit_eq_false
    have marked : (mark = 'e' || mark = 'E') = true := by simpa using marks
    rcases signs with rfl | rfl | rfl
    · obtain ⟨first, others, rfl⟩ := List.exists_cons_of_ne_nil some.1
      have digit : first.isDigit = true := some.2 first List.mem_cons_self
      simp only [List.nil_append, List.cons_append, readExponent, marked, if_true]
      simp only [List.cons_append] at read
      split
      · next same =>
          obtain ⟨rfl, -⟩ := List.cons.inj same
          contradiction
      · next same =>
          obtain ⟨rfl, -⟩ := List.cons.inj same
          contradiction
      · rw [read]
        rfl
    · simp [readExponent, marked, read]
    · simp [readExponent, marked, read]

private theorem IsExponent.isDigit_eq_false {part rest : List Char} (exponent : IsExponent part)
    (apart : Apart rest) : ∀ character ∈ (part ++ rest).head?,
      character.isDigit = false ∧ character ≠ '.' := by
  rcases exponent with rfl | ⟨mark, sign, digits, marks, -, -, rfl⟩
  · intro character first
    have other := apart character first
    simp only [extendsNumeral, Bool.or_eq_false_iff, decide_eq_false_iff_not] at other
    exact ⟨other.1.1.1, other.1.1.2⟩
  · intro character first
    obtain rfl := Option.some.inj first
    rcases marks with rfl | rfl <;> decide

private theorem readFraction_append {part rest : List Char} (fraction : IsFraction part)
    (ends : ∀ character ∈ rest.head?, character.isDigit = false ∧ character ≠ '.') :
    readFraction (part ++ rest) = some (part, rest) := by
  rcases fraction with rfl | ⟨digits, some, rfl⟩
  · cases rest with
    | nil => rfl
    | cons first rest =>
        have other := (ends first rfl).2
        rw [List.nil_append, readFraction.eq_def]
        split
        · next same => exact absurd (List.cons.inj same).1 other
        · rfl
  · rw [List.cons_append, readFraction, readDigits_append some fun character first =>
      (ends character first).1]
    rfl

private theorem readWhole_append {part rest : List Char} (whole : IsWhole part)
    (ends : ∀ character ∈ rest.head?, character.isDigit = false) :
    readWhole (part ++ rest) = some (part, rest) := by
  rcases whole with rfl | ⟨some, zero⟩
  · rfl
  · have read := readDigits_append some ends
    obtain ⟨first, others, rfl⟩ := List.exists_cons_of_ne_nil some.1
    rw [List.cons_append] at read ⊢
    rw [readWhole.eq_def]
    split
    · next same => exact absurd (congrArg Option.some (List.cons.inj same).1) zero
    · exact read

private theorem readUnsigned_append {whole fraction exponent rest : List Char}
    (isWhole : IsWhole whole)
    (isFraction : IsFraction fraction) (isExponent : IsExponent exponent) (apart : Apart rest) :
    readUnsigned (whole ++ fraction ++ exponent ++ rest) =
      some (whole ++ fraction ++ exponent, rest) := by
  have tail := isExponent.isDigit_eq_false apart
  have middle : ∀ character ∈ (fraction ++ (exponent ++ rest)).head?,
      character.isDigit = false := by
    rcases isFraction with rfl | ⟨digits, -, rfl⟩
    · exact fun character first => (tail character first).1
    · intro character first
      obtain rfl := Option.some.inj first
      rfl
  simp only [List.append_assoc, readUnsigned, readWhole_append isWhole middle,
    readFraction_append isFraction tail, readExponent_append isExponent apart,
    Option.bind_eq_bind, Option.bind_some]
  rfl

theorem IsNumeral.exists_cons {numeral : List Char} (isNumeral : IsNumeral numeral) :
    ∃ first others, numeral = first :: others ∧ (first.isDigit = true ∨ first = '-') := by
  obtain ⟨sign, whole, fraction, exponent, signs, isWhole, -, -, rfl⟩ := isNumeral
  rcases signs with rfl | rfl
  · rcases isWhole with rfl | ⟨some, -⟩
    · exact ⟨_, _, rfl, .inl rfl⟩
    · obtain ⟨first, others, rfl⟩ := List.exists_cons_of_ne_nil some.1
      exact ⟨_, _, rfl, .inl (some.2 first List.mem_cons_self)⟩
  · exact ⟨_, _, rfl, .inr rfl⟩

theorem readNumeral_append {numeral rest : List Char} (isNumeral : IsNumeral numeral)
    (apart : Apart rest) : readNumeral (numeral ++ rest) = some (numeral, rest) := by
  obtain ⟨sign, whole, fraction, exponent, signs, isWhole, isFraction, isExponent, rfl⟩ := isNumeral
  have unsigned := readUnsigned_append isWhole isFraction isExponent apart
  rcases signs with rfl | rfl
  · have first : ∃ first others, whole ++ fraction ++ exponent ++ rest = first :: others ∧
        first ≠ '-' := by
      rcases isWhole with rfl | ⟨some, -⟩
      · exact ⟨_, _, rfl, by decide⟩
      · obtain ⟨first, others, rfl⟩ := List.exists_cons_of_ne_nil some.1
        refine ⟨_, _, rfl, ?_⟩
        rintro rfl
        exact absurd (some.2 '-' List.mem_cons_self) (by decide)
    obtain ⟨first, others, parted, positive⟩ := first
    rw [List.nil_append]
    rw [parted] at unsigned ⊢
    rw [readNumeral.eq_def]
    split
    · next same => exact absurd (List.cons.inj same).1 positive
    · exact unsigned
  · rw [List.cons_append, List.cons_append, List.nil_append, readNumeral, unsigned]
    rfl

private theorem digitChar_ne_zero : ∀ digit < 10, 0 < digit → Nat.digitChar digit ≠ '0' := by decide

private theorem head?_decimal_ne {number : Nat} (positive : 0 < number) :
    (Text.decimal number).head? ≠ some '0' := by
  induction number using Nat.strongRecOn with
  | ind number ih =>
      rw [Text.decimal, Nat.toDigits_eq_if (by decide)]
      split
      next single =>
        intro same
        exact digitChar_ne_zero number single positive (Option.some.inj same)
      next more =>
        have front := ih (number / 10) (Nat.div_lt_self positive (by decide))
          (Nat.div_pos (Nat.le_of_not_lt more) (by decide))
        obtain ⟨first, others, digits⟩ :=
          List.exists_cons_of_ne_nil (Nat.toDigits_ne_nil (n := number / 10) (b := 10))
        rw [Text.decimal, digits] at front
        rw [digits]
        exact front

theorem isNumeral_decimal (number : Nat) : IsNumeral (Text.decimal number) := by
  refine ⟨[], Text.decimal number, [], [], .inl rfl, ?_, .inl rfl, .inl rfl, by simp⟩
  by_cases zero : number = 0
  · exact .inl (zero ▸ rfl)
  · exact .inr ⟨Text.digits_decimal number, head?_decimal_ne (Nat.pos_of_ne_zero zero)⟩

end Quorate.Json
