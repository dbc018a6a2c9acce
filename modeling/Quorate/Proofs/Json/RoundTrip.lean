import Quorate.Proofs.Json.Text

/-!
Reading undoes printing: whatever value is printed, its text is read as that value, provided that
its numerals are numerals. Values lie in one another, so the statement is about a value with
something behind it that is not part of it.
-/

namespace Quorate.Json

mutual

/-- All numerals in a value are numerals. -/
def Sound : Json → Prop
  | .null => True
  | .bool _ => True
  | .number numeral => IsNumeral numeral
  | .string _ => True
  | .array items => SoundItems items
  | .object members => SoundMembers members

def SoundItems : List Json → Prop
  | [] => True
  | item :: items => Sound item ∧ SoundItems items

def SoundMembers : List (Option String × Json) → Prop
  | [] => True
  | (_, value) :: members => Sound value ∧ SoundMembers members

end

@[simp] theorem sound_ofNat (number : Nat) : (ofNat number).Sound := by
  rw [ofNat, Sound]
  exact isNumeral_decimal number

@[simp] theorem sound_ofString (content : String) : (ofString content).Sound := by
  rw [ofString, Sound]
  trivial

private theorem soundMembers_iff (members : List (Option String × Json)) :
    SoundMembers members ↔ ∀ member ∈ members, member.2.Sound := by
  induction members with
  | nil => simp [SoundMembers]
  | cons member members ih => simp [SoundMembers, ih]

theorem sound_ofMembers {members : List (String × Json)}
    (sound : ∀ member ∈ members, member.2.Sound) : (ofMembers members).Sound := by
  rw [ofMembers, Sound, soundMembers_iff]
  intro member present
  obtain ⟨origin, among, rfl⟩ := List.mem_map.mp present
  exact sound origin among

/-! ### First characters -/

private theorem skipSpace_cons {first : Char} (visible : isSpace first = false) (rest : List Char) :
    skipSpace (first :: rest) = first :: rest :=
  List.dropWhile_cons_of_neg (Bool.eq_false_iff.mp visible)

private theorem isSpace_of_isDigit {character : Char} (digit : character.isDigit = true) :
    isSpace character = false := by
  rw [isSpace]
  simp only [Bool.or_eq_false_iff, decide_eq_false_iff_not]
  refine ⟨⟨⟨?_, ?_⟩, ?_⟩, ?_⟩ <;> (rintro rfl; exact absurd digit (by decide))

def closes (character : Char) : Bool := isSpace character || character = ']' || character = '}'

private theorem render_eq_cons {json : Json} (sound : json.Sound) :
    ∃ first others, json.render = first :: others ∧ closes first = false := by
  cases json with
  | null => exact ⟨_, _, rfl, rfl⟩
  | bool value => cases value <;> exact ⟨_, _, rfl, rfl⟩
  | number numeral =>
      rw [Sound] at sound
      obtain ⟨first, others, rfl, starts⟩ := sound.exists_cons
      refine ⟨first, others, by rw [render], ?_⟩
      rcases starts with digit | rfl
      · simp only [closes, isSpace_of_isDigit digit, Bool.false_or, Bool.or_eq_false_iff,
          decide_eq_false_iff_not]
        constructor <;> (rintro rfl; exact absurd digit (by decide))
      · rfl
  | string content =>
      obtain ⟨text, quoted, -⟩ := readText_quote content []
      rw [List.append_nil] at quoted
      exact ⟨'"', text, by rw [render, quoted], rfl⟩
  | array items => cases items <;> exact ⟨_, _, by rw [render], rfl⟩
  | object members => cases members <;> exact ⟨_, _, by rw [render], rfl⟩

private theorem skipSpace_render {json : Json} (sound : json.Sound) (rest : List Char) :
    skipSpace (json.render ++ rest) = json.render ++ rest := by
  obtain ⟨first, others, printed, visible⟩ := render_eq_cons sound
  rw [printed, List.cons_append]
  rw [closes, Bool.or_assoc, Bool.or_eq_false_iff] at visible
  exact skipSpace_cons visible.1 _

private theorem apart_renderItems (items : List Json) (rest : List Char) :
    Apart (renderItems items ++ rest) := by
  cases items <;> exact apart_cons rfl

private theorem apart_renderMembers (members : List (Option String × Json)) (rest : List Char) :
    Apart (renderMembers members ++ rest) := by
  cases members with
  | nil => exact apart_cons rfl
  | cons member members => exact apart_cons rfl

private theorem readName_quote (name : Option String) (rest : List Char) :
    readName (quote name ++ ':' :: rest) = some (name, rest) := by
  obtain ⟨text, quoted, read⟩ := readText_quote name (':' :: rest)
  rw [quoted, readName, skipSpace_cons rfl]
  simp only [read, skipSpace_cons (show isSpace ':' = false from rfl), Option.bind_eq_bind,
    Option.bind_some]
  rfl

/-! ### Values -/

private theorem readValue_numeral {numeral rest : List Char} (isNumeral : IsNumeral numeral)
    (apart : Apart rest) (bound : Nat) :
    readValue (bound + 1) (numeral ++ rest) = some (.number numeral, rest) := by
  have read := readNumeral_append isNumeral apart
  have visible := skipSpace_render (show (number numeral).Sound by rwa [Sound]) rest
  rw [render] at visible
  obtain ⟨first, others, rfl, starts⟩ := isNumeral.exists_cons
  have differs (other : Char) (sign : other ≠ '-') (letter : other.isDigit = false) :
      first ≠ other := by
    rintro rfl
    rcases starts with digit | minus
    · exact absurd (digit.symm.trans letter) (by decide)
    · exact sign minus
  rw [readValue, visible, List.cons_append] at *
  split
  case h_7 => rw [read, Option.map_some]
  all_goals
    next same =>
      exact absurd (List.cons.inj same).1 (differs _ (by decide) (by decide))

mutual

private theorem readValue_render (json : Json) (sound : json.Sound) (bound : Nat)
    (enough : json.render.length ≤ bound) {rest : List Char} (apart : Apart rest) :
    readValue bound (json.render ++ rest) = some (json, rest) := by
  obtain ⟨bound, rfl⟩ : ∃ less, bound = less + 1 := by
    obtain ⟨first, others, printed, -⟩ := render_eq_cons sound
    rw [printed, List.length_cons] at enough
    exact Nat.exists_eq_add_of_le' (Nat.le_trans (Nat.le_add_left 1 _) enough)
  cases json with
  | null => rfl
  | bool value => cases value <;> rfl
  | number numeral =>
      rw [Sound] at sound
      rw [render]
      exact readValue_numeral sound apart bound
  | string content =>
      obtain ⟨text, quoted, read⟩ := readText_quote content rest
      rw [render, readValue, quoted, skipSpace_cons rfl]
      simp only [read, Option.map_some]
  | array items =>
      cases items with
      | nil => rfl
      | cons item items =>
          rw [Sound, SoundItems] at sound
          rw [render, List.length_cons, List.length_append] at enough
          have head := readValue_render item sound.1 bound (by omega)
            (apart_renderItems items rest)
          have tail := readItems_renderItems items sound.2 bound (by omega) rest
          have within := skipSpace_render sound.1 (renderItems items ++ rest)
          obtain ⟨first, others, printed, visible⟩ := render_eq_cons sound.1
          rw [render, List.cons_append, List.append_assoc, readValue, skipSpace_cons rfl]
          simp only [within]
          rw [printed, List.cons_append] at head ⊢
          split
          · next same =>
              obtain ⟨rfl, -⟩ := List.cons.inj same
              exact absurd visible (by decide)
          · simp only [head, tail, Option.bind_eq_bind, Option.bind_some]
            rfl
  | object members =>
      cases members with
      | nil => rfl
      | cons member members =>
          cases member with
          | mk name value =>
              rw [Sound, SoundMembers] at sound
              rw [render, List.length_cons, List.length_append, List.length_cons,
                List.length_append] at enough
              have head := readValue_render value sound.1 bound (by omega)
                (apart_renderMembers members rest)
              have tail := readMembers_renderMembers members sound.2 bound (by omega) rest
              have named := readName_quote name (value.render ++ (renderMembers members ++ rest))
              obtain ⟨text, quoted, -⟩ :=
                readText_quote name (':' :: (value.render ++ (renderMembers members ++ rest)))
              rw [quoted] at named
              rw [render, List.cons_append, List.append_assoc, List.cons_append, List.append_assoc,
                readValue, skipSpace_cons rfl]
              simp only [quoted, skipSpace_cons (show isSpace '"' = false from rfl)]
              split
              · next same => exact absurd (List.cons.inj same).1 (by decide)
              · simp only [named, head, tail, Option.bind_eq_bind, Option.bind_some]
                rfl
termination_by sizeOf json

theorem readItems_renderItems (items : List Json) (sound : SoundItems items) (bound : Nat)
    (enough : (renderItems items).length ≤ bound) (rest : List Char) :
    readItems bound (renderItems items ++ rest) = some (items, rest) := by
  cases items with
  | nil =>
      obtain ⟨bound, rfl⟩ := Nat.exists_eq_add_of_le' enough
      rfl
  | cons item items =>
      rw [SoundItems] at sound
      rw [renderItems, List.length_cons, List.length_append] at enough
      obtain ⟨bound, rfl⟩ := Nat.exists_eq_add_of_le' (Nat.le_trans (Nat.le_add_left 1 _) enough)
      have head := readValue_render item sound.1 bound (by omega)
        (apart_renderItems items rest)
      have tail := readItems_renderItems items sound.2 bound (by omega) rest
      rw [renderItems, List.cons_append, List.append_assoc, readItems, skipSpace_cons rfl]
      simp only [head, tail, Option.bind_eq_bind, Option.bind_some]
      rfl
termination_by sizeOf items

theorem readMembers_renderMembers (members : List (Option String × Json))
    (sound : SoundMembers members) (bound : Nat)
    (enough : (renderMembers members).length ≤ bound) (rest : List Char) :
    readMembers bound (renderMembers members ++ rest) = some (members, rest) := by
  cases members with
  | nil =>
      obtain ⟨bound, rfl⟩ := Nat.exists_eq_add_of_le' enough
      rfl
  | cons member members =>
      cases member with
      | mk name value =>
          rw [SoundMembers] at sound
          rw [renderMembers, List.length_cons, List.length_append, List.length_cons,
            List.length_append] at enough
          obtain ⟨bound, rfl⟩ :=
            Nat.exists_eq_add_of_le' (Nat.le_trans (Nat.le_add_left 1 _) enough)
          have head := readValue_render value sound.1 bound (by omega)
            (apart_renderMembers members rest)
          have tail := readMembers_renderMembers members sound.2 bound (by omega) rest
          have named := readName_quote name (value.render ++ (renderMembers members ++ rest))
          rw [renderMembers, List.cons_append, List.append_assoc, List.cons_append,
            List.append_assoc, readMembers, skipSpace_cons rfl]
          simp only [named, head, tail, Option.bind_eq_bind, Option.bind_some]
          rfl
termination_by sizeOf members

end

theorem read_print {json : Json} (sound : json.Sound) : read json.print = some json := by
  have nothing : Apart [] := fun _ absent => nomatch absent
  have value := readValue_render json sound (json.render.length + 1) (Nat.le_add_right _ 1) nothing
  rw [List.append_nil] at value
  simp only [read, print, String.toList_ofList, value]
  rfl

end Quorate.Json
