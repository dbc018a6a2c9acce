import Quorate.Failure
import Quorate.Proofs.Text

/-!
The grammar of durations. A text is read exactly if it spells a number of one of the four units and
the number fits; what is read is that many units, exactly.
-/

namespace Quorate.Duration

inductive Measure where
  | milliseconds
  | seconds
  | minutes
  | hours
deriving DecidableEq, Repr

namespace Measure

def symbol : Measure → List Char
  | .milliseconds => ['m', 's']
  | .seconds => ['s']
  | .minutes => ['m']
  | .hours => ['h']

def inMillis : Measure → Nat
  | .milliseconds => 1
  | .seconds => 1000
  | .minutes => 60 * 1000
  | .hours => 3600 * 1000

/-- The number fits a word of 64 bits, and so does the number of seconds in that many minutes or
hours. -/
def Fits (measure : Measure) (number : Nat) : Prop :=
  number < UInt64.size ∧
    match measure with
    | .milliseconds => True
    | .seconds => True
    | .minutes => number * 60 < UInt64.size
    | .hours => number * 3600 < UInt64.size

private theorem bare_append_symbol {digits : List Char} (numeral : Text.Digits digits)
    (measure : Measure) : Text.Bare (digits ++ measure.symbol) := by
  obtain ⟨inhabited, all⟩ := numeral
  obtain ⟨first, rest, rfl⟩ := List.exists_cons_of_ne_nil inhabited
  constructor
  · rintro character ⟨⟩
    exact Text.isBlank_of_isDigit (all first List.mem_cons_self)
  · rw [List.getLast?_append]
    cases measure <;> (rintro character ⟨⟩; rfl)

private theorem takeWhile_append_symbol {digits : List Char}
    (all : ∀ character ∈ digits, character.isDigit = true) (measure : Measure) :
    (digits ++ measure.symbol).takeWhile Char.isDigit = digits ∧
      (digits ++ measure.symbol).dropWhile Char.isDigit = measure.symbol := by
  rw [List.takeWhile_append_of_pos all, List.dropWhile_append_of_pos all]
  cases measure <;> exact ⟨List.append_nil digits, rfl⟩

end Measure

/-- The text is a decimal numeral of the number and right behind it the symbol of the unit, with any
blanks around the two. -/
def Spells (text : String) (number : Nat) (measure : Measure) : Prop :=
  ∃ lead digits trail, Text.Blank lead ∧ Text.Blank trail ∧ Text.Digits digits ∧
    Nat.ofDigitChars 10 digits 0 = number ∧
    text.toList = lead ++ (digits ++ measure.symbol) ++ trail

private theorem millis_ofMillis (millis : Nat) : (ofMillis millis).millis = millis :=
  Nat.mul_div_cancel millis (by decide)

private theorem ofSeconds_eq (seconds : Nat) : ofSeconds seconds = ofMillis (seconds * 1000) := by
  have nanos : seconds * 1000000000 = seconds * 1000 * 1000000 := by omega
  exact congrArg Duration.mk nanos

private theorem scaled_eq_ok_iff {text : String} {number factor : Nat} {duration : Duration} :
    scaled text number factor = .ok duration ↔
      number * factor < UInt64.size ∧ duration = ofMillis (number * (factor * 1000)) := by
  rw [← Nat.mul_assoc, ← ofSeconds_eq]
  unfold scaled
  split
  · next fits => exact ⟨fun read => ⟨fits, (Except.ok.inj read).symm⟩, fun all => all.2 ▸ rfl⟩
  · next large => exact ⟨nofun, fun all => absurd all.1 large⟩

private theorem ofParts_eq_ok_iff {text : String} {numeral unit : List Char} {duration : Duration} :
    ofParts text numeral unit = .ok duration ↔
      ∃ number measure, Text.readDecimalBelow UInt64.size numeral = some number ∧
        unit = Measure.symbol measure ∧ measure.Fits number ∧
        duration = ofMillis (number * measure.inMillis) := by
  unfold ofParts
  cases read : Text.readDecimalBelow UInt64.size numeral with
  | none =>
      constructor
      · nofun
      · rintro ⟨_, _, other, _⟩
        cases other
  | some number =>
      have small : number < UInt64.size := (Text.readDecimalBelow_eq_some_iff.mp read).2.2
      dsimp only
      constructor
      · intro done
        refine ⟨number, ?_⟩
        split at done
        · next milliseconds =>
            obtain rfl := Except.ok.inj done
            refine ⟨.milliseconds, rfl, milliseconds, ⟨small, trivial⟩, ?_⟩
            rw [Measure.inMillis, Nat.mul_one]
        split at done
        · next seconds =>
            obtain rfl := Except.ok.inj done
            exact ⟨.seconds, rfl, seconds, ⟨small, trivial⟩, ofSeconds_eq number⟩
        split at done
        · next minutes =>
            obtain ⟨fits, same⟩ := scaled_eq_ok_iff.mp done
            exact ⟨.minutes, rfl, minutes, ⟨small, fits⟩, same⟩
        split at done
        · next hours =>
            obtain ⟨fits, same⟩ := scaled_eq_ok_iff.mp done
            exact ⟨.hours, rfl, hours, ⟨small, fits⟩, same⟩
        · cases done
      · rintro ⟨_, measure, ⟨⟩, rfl, fits, rfl⟩
        cases measure with
        | milliseconds =>
            rw [Measure.inMillis, Nat.mul_one]
            rfl
        | seconds =>
            rw [Measure.inMillis, ← ofSeconds_eq]
            rfl
        | minutes => exact scaled_eq_ok_iff.mpr ⟨fits.2, rfl⟩
        | hours => exact scaled_eq_ok_iff.mpr ⟨fits.2, rfl⟩

/-- Parsing takes the blanks off and parts the rest where the digits end. -/
theorem parse_eq_ok_iff_ofParts {text : String} {duration : Duration} :
    parse text = .ok duration ↔
      ofParts (String.ofList (Text.trim text.toList))
        ((Text.trim text.toList).takeWhile Char.isDigit)
        ((Text.trim text.toList).dropWhile Char.isDigit) = .ok duration := by
  unfold parse
  generalize Text.trim text.toList = trimmed
  have unread (none : trimmed.dropWhile Char.isDigit = []) :
      ofParts (String.ofList trimmed) (trimmed.takeWhile Char.isDigit)
        (trimmed.dropWhile Char.isDigit) ≠ .ok duration := by
    intro read
    obtain ⟨_, measure, _, unit, _⟩ := ofParts_eq_ok_iff.mp read
    rw [none] at unit
    cases measure <;> cases unit
  dsimp only
  split
  · next empty =>
      obtain rfl := List.isEmpty_iff.mp empty
      exact iff_of_false nofun (unread rfl)
  · split
    · next none => exact iff_of_false nofun (unread (List.isEmpty_iff.mp none))
    · exact Iff.rfl

private theorem parse_eq_ok_iff {text : String} {duration : Duration} :
    parse text = .ok duration ↔
      ∃ number measure, Spells text number measure ∧ measure.Fits number ∧
        duration = ofMillis (number * measure.inMillis) := by
  rw [parse_eq_ok_iff_ofParts]
  simp only [ofParts_eq_ok_iff]
  constructor
  · rintro ⟨number, measure, read, unit, fits, same⟩
    refine ⟨number, measure, ?_, fits, same⟩
    obtain ⟨digits, value, _⟩ := Text.readDecimalBelow_eq_some_iff.mp read
    obtain ⟨lead, trail, blank, blankTrail, split⟩ := Text.exists_eq_append_trim text.toList
    refine ⟨lead, _, trail, blank, blankTrail, digits, value, ?_⟩
    rw [← unit, List.takeWhile_append_dropWhile]
    exact split
  · rintro ⟨number, measure, spelled, fits, same⟩
    obtain ⟨lead, digits, trail, blank, blankTrail, numeral, value, split⟩ := spelled
    refine ⟨number, measure, ?_⟩
    have trimmed : Text.trim text.toList = digits ++ measure.symbol := by
      rw [split]
      exact Text.trim_of_bare blank blankTrail (Measure.bare_append_symbol numeral measure)
        (List.append_ne_nil_of_left_ne_nil numeral.1 _)
    obtain ⟨front, back⟩ := measure.takeWhile_append_symbol numeral.2
    rw [trimmed, front, back]
    exact ⟨Text.readDecimalBelow_eq_some_iff.mpr ⟨numeral, value, fits.1⟩, rfl, fits, same⟩

private theorem spells_of_decimal (number : Nat) (measure : Measure) :
    Spells (Text.decimalText number ++ String.ofList measure.symbol) number measure := by
  refine ⟨[], Text.decimal number, [], nofun, nofun, Text.digits_decimal number,
    Text.decimalValue_decimal number, ?_⟩
  unfold Text.decimalText
  rw [String.toList_append, String.toList_ofList, String.toList_ofList, List.append_nil]
  rfl

/-- A text is a duration exactly if, with any blanks around, it spells a number of one of the units
and the number fits; it is then that many units, to the millisecond. Every other text is an invalid
configuration. In particular a number that fits is read back from its decimal numeral. -/
theorem parse_grammar :
    (∀ text duration, parse text = .ok duration ↔
      ∃ number measure, Spells text number measure ∧ measure.Fits number ∧
        duration = ofMillis (number * measure.inMillis) ∧
        duration.millis = number * measure.inMillis) ∧
      (∀ text, (¬∃ number measure, Spells text number measure ∧ measure.Fits number) →
        ∃ reason, (parse text).mapError Failure.ofDurationFault =
          .error (.invalidConfig reason)) ∧
      ∀ number measure, Measure.Fits measure number →
        parse (Text.decimalText number ++ String.ofList measure.symbol) =
          .ok (ofMillis (number * measure.inMillis)) := by
  refine ⟨?_, ?_, ?_⟩
  · intro text duration
    rw [parse_eq_ok_iff]
    constructor
    · rintro ⟨number, measure, spelled, fits, rfl⟩
      exact ⟨number, measure, spelled, fits, rfl, millis_ofMillis _⟩
    · rintro ⟨number, measure, spelled, fits, same, _⟩
      exact ⟨number, measure, spelled, fits, same⟩
  · intro text unfit
    cases read : parse text with
    | error fault => exact ⟨fault.message, rfl⟩
    | ok duration =>
        obtain ⟨number, measure, spelled, fits, _⟩ := parse_eq_ok_iff.mp read
        exact absurd ⟨number, measure, spelled, fits⟩ unfit
  · intro number measure fits
    exact parse_eq_ok_iff.mpr ⟨number, measure, spells_of_decimal number measure, fits, rfl⟩

/-- The greatest number of hours that fits, with zeros before it and blanks around it; one hour
more; and the same number as it is written. -/
theorem parse_grammar_hours :
    parse "\u2003\t005124095576030431h\u00a0" = .ok (ofMillis (5124095576030431 * (3600 * 1000))) ∧
      (∃ reason, (parse "5124095576030432h").mapError Failure.ofDurationFault =
        .error (.invalidConfig reason)) ∧
      parse (Text.decimalText 5124095576030431 ++ String.ofList ['h']) =
        .ok (ofMillis (5124095576030431 * (3600 * 1000))) := by
  obtain ⟨reads, refuses, renders⟩ := parse_grammar
  have fits : Measure.Fits .hours 5124095576030431 := ⟨by decide, by decide⟩
  refine ⟨?_, ?_, renders 5124095576030431 .hours fits⟩
  · rw [reads]
    refine ⟨5124095576030431, .hours, ?_, fits, rfl, millis_ofMillis _⟩
    exact ⟨['\u2003', '\t'], '0' :: '0' :: Text.decimal 5124095576030431, ['\u00a0'],
      by decide, by decide, by decide +kernel, rfl, String.toList_ofList⟩
  · apply refuses
    rintro ⟨number, measure, spelled, fits⟩
    have read := (reads _ _).mpr ⟨number, measure, spelled, fits, rfl, millis_ofMillis _⟩
    have large : parse "5124095576030432h" = .error (.outOfRange "5124095576030432h") := by
      decide +kernel
    rw [large] at read
    cases read

end Quorate.Duration
