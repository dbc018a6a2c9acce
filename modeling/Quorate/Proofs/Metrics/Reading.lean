import Mathlib.Data.List.Forall2
import Quorate.Binary64.Shortest
import Quorate.Metrics.Exposition
import Quorate.Metrics.Reading
import Quorate.Proofs.Text

/-!
Lines of metrics are read as what they were written for: a help, a type, or a sample with or without
a label. Names have no blanks and no braces, values and labels are numbers, and no line has a line
end in it.
-/

namespace Quorate.Metrics

/-! ### Characters of numbers -/

def isFigure (character : Char) : Bool :=
  character.isDigit || character ∈ ['-', '+', '.', 'i', 'I', 'n', 'N', 'f', 'a']

def Figures (text : String) : Prop := ∀ character ∈ text.toList, isFigure character = true

theorem figures_of_all {text : String} (all : text.toList.all isFigure = true) : Figures text :=
  List.all_eq_true.mp all

private theorem isFigure_of_isDigit {character : Char} (digit : character.isDigit = true) :
    isFigure character = true := by
  rw [isFigure, digit, Bool.true_or]

theorem figures_decimalText (number : Nat) : Figures (Text.decimalText number) := by
  intro character present
  rw [Text.decimalText, String.toList_ofList] at present
  exact isFigure_of_isDigit ((Text.digits_decimal number).2 character present)

private theorem isFigure_of_mem_positional (decimal : Binary64.Decimal) :
    ∀ character ∈ decimal.positional, isFigure character = true := by
  have digits : ∀ character ∈ Text.decimal decimal.digits, isFigure character = true :=
    fun character present => isFigure_of_isDigit ((Text.digits_decimal _).2 character present)
  have zeros : ∀ count, ∀ character ∈ List.replicate count '0', isFigure character = true := by
    intro count character present
    rw [List.eq_of_mem_replicate present]
    rfl
  intro character present
  unfold Binary64.Decimal.positional at present
  split at present
  · rcases List.mem_append.mp present with front | back
    · exact digits character front
    · exact zeros _ character back
  · have padded : ∀ character ∈
        List.replicate ((-decimal.exponent).toNat + 1 - (Text.decimal decimal.digits).length) '0' ++
          Text.decimal decimal.digits, isFigure character = true := by
      intro character present
      rcases List.mem_append.mp present with front | back
      · exact zeros _ character front
      · exact digits character back
    rcases List.mem_append.mp present with front | back
    · exact padded character (List.mem_of_mem_take front)
    · rcases List.mem_cons.mp back with rfl | back
      · rfl
      · exact padded character (List.mem_of_mem_drop back)

theorem figures_text (value : Float) : Figures (Binary64.text value) := by
  unfold Binary64.text
  split
  · intro character present
    rw [String.toList_ofList] at present
    rcases List.mem_append.mp present with front | back
    · split at front
      · rw [List.mem_singleton.mp front]
        rfl
      · cases front
    · split at back
      · have infinite : ['i', 'n', 'f'].all isFigure = true := rfl
        exact List.all_eq_true.mp infinite character back
      · split at back
        · rw [List.mem_singleton.mp back]
          rfl
        · exact isFigure_of_mem_positional _ character back
  · exact figures_of_all rfl

theorem Figures.not_mem {text : String} (figures : Figures text) {character : Char}
    (other : isFigure character = false) : character ∉ text.toList := by
  intro present
  exact absurd ((figures character present).symm.trans other) (by decide)

namespace Line

/-! ### Lines -/

/-- What stands as a name in a line: it ends where it should, and begins no comment. -/
def IsName (name : String) : Prop :=
  (∀ character ∈ name.toList, isNameEnd character = false ∧ character ≠ '\n') ∧
    name.toList.head? ≠ some '#'

instance (name : String) : Decidable (IsName name) :=
  @instDecidableAnd _ _ (List.decidableBAll _ _) _

private theorem takeWhile_append_cons {accepted : Char → Bool} {front : List Char} {stop : Char}
    (back : List Char) (within : ∀ character ∈ front, accepted character = true)
    (stops : accepted stop = false) :
    (front ++ stop :: back).takeWhile accepted = front ∧
      (front ++ stop :: back).dropWhile accepted = stop :: back := by
  have none : ¬accepted stop = true := Bool.eq_false_iff.mp stops
  constructor
  · rw [List.takeWhile_append_of_pos within, List.takeWhile_cons_of_neg none, List.append_nil]
  · rw [List.dropWhile_append_of_pos within, List.dropWhile_cons_of_neg none]

private theorem ofWords_append (make : String → String → Line) {name : String}
    (isName : IsName name) (content : List Char) :
    ofWords make (name.toList ++ ' ' :: content) = some (make name (String.ofList content)) := by
  have within : ∀ character ∈ name.toList, decide (character ≠ ' ') = true := by
    intro character present
    have inside := (isName.1 character present).1
    rw [isNameEnd, Bool.or_eq_false_iff, decide_eq_false_iff_not] at inside
    exact decide_eq_true inside.1
  obtain ⟨taken, left⟩ := takeWhile_append_cons content within
    (show decide (' ' ≠ ' ') = false from rfl)
  simp only [ofWords, left, taken, String.ofList_toList]

theorem read_help {family content : String} (isName : IsName family) :
    read ("# HELP " ++ family ++ " " ++ content).toList = some (.help family content) := by
  have words := ofWords_append .help isName content.toList
  rw [String.ofList_toList] at words
  simpa [String.toList_append, read] using words

theorem read_kind {family content : String} (isName : IsName family) :
    read ("# TYPE " ++ family ++ " " ++ content).toList = some (.kind family content) := by
  have words := ofWords_append .kind isName content.toList
  rw [String.ofList_toList] at words
  simpa [String.toList_append, read] using words

private theorem read_of_isName {name : String} (isName : IsName name) {stop : Char}
    (ends : isNameEnd stop = true) (rest : List Char) :
    read (name.toList ++ stop :: rest) = readSample (name.toList ++ stop :: rest) := by
  have first : ∃ first others, name.toList ++ stop :: rest = first :: others ∧ first ≠ '#' := by
    cases letters : name.toList with
    | nil =>
        refine ⟨stop, rest, rfl, ?_⟩
        rintro rfl
        exact absurd ends (by decide)
    | cons first others =>
        refine ⟨first, others ++ stop :: rest, rfl, ?_⟩
        rintro rfl
        exact isName.2 (by rw [letters]; rfl)
  obtain ⟨first, others, parted, noComment⟩ := first
  rw [parted, read.eq_def]
  split
  · next same => exact absurd (List.cons.inj same).1 noComment
  · next same => exact absurd (List.cons.inj same).1 noComment
  · rfl

private theorem IsName.within {name : String} (isName : IsName name) :
    ∀ character ∈ name.toList, (!isNameEnd character) = true := by
  intro character present
  rw [(isName.1 character present).1]
  rfl

theorem read_sample {name : String} (isName : IsName name) (value : String) :
    read (name ++ " " ++ value).toList = some (.sample name none value) := by
  obtain ⟨taken, left⟩ := takeWhile_append_cons value.toList isName.within
    (show (!isNameEnd ' ') = false from rfl)
  have shape : (name ++ " " ++ value).toList = name.toList ++ ' ' :: value.toList := by
    simp [String.toList_append]
  rw [shape, read_of_isName isName rfl, readSample, taken, left]
  simp only [String.ofList_toList]

theorem read_bound {name bound : String} (isName : IsName name) (figures : Figures bound)
    (value : String) :
    read (name ++ Text.braced ("le=\"" ++ bound ++ "\"") ++ " " ++ value).toList =
      some (.sample name (some bound) value) := by
  obtain ⟨taken, left⟩ := takeWhile_append_cons
    ('l' :: 'e' :: '=' :: '"' :: (bound.toList ++ '"' :: '}' :: ' ' :: value.toList))
    isName.within (show (!isNameEnd '{') = false from rfl)
  have within : ∀ character ∈ bound.toList, decide (character ≠ '"') = true := by
    intro character present
    refine decide_eq_true ?_
    rintro rfl
    exact figures.not_mem rfl present
  obtain ⟨inside, after⟩ := takeWhile_append_cons ('}' :: ' ' :: value.toList) within
    (show decide ('"' ≠ '"') = false from rfl)
  have shape : (name ++ Text.braced ("le=\"" ++ bound ++ "\"") ++ " " ++ value).toList =
      name.toList ++ '{' :: ('l' :: 'e' :: '=' :: '"' ::
        (bound.toList ++ '"' :: '}' :: ' ' :: value.toList)) := by
    simp [String.toList_append]
  rw [shape, read_of_isName isName rfl, readSample, taken, left]
  simp only [after, inside, String.ofList_toList]

/-! ### Texts -/

/-- A line of a text, and what it is read as. -/
def Reads (line : String) (meaning : Line) : Prop :=
  '\n' ∉ line.toList ∧ read line.toList = some meaning

private theorem split_append {line : List Char} (one : '\n' ∉ line) (rest : List Char) :
    split (line ++ '\n' :: rest) = (split rest).map (line :: ·) := by
  induction line with
  | nil => rfl
  | cons first others ih =>
      rw [List.mem_cons, not_or] at one
      have differs : first ≠ '\n' := fun same => one.1 same.symm
      rw [List.cons_append, split.eq_def]
      split
      · contradiction
      · next same => exact absurd (List.cons.inj same).1 differs
      · next same =>
          obtain ⟨rfl, rfl⟩ := List.cons.inj same
          rw [ih one.2]
          cases split rest <;> rfl

theorem readAll_of_reads {lines : List String} {meanings : List Line}
    (reads : List.Forall₂ Reads lines meanings) :
    readAll (String.ofList (lines.flatMap fun line => line.toList ++ ['\n'])) = some meanings := by
  rw [readAll, String.toList_ofList]
  induction reads with
  | nil => rfl
  | cons first rest ih =>
      rw [Option.bind_eq_some_iff] at ih
      obtain ⟨lines, parts, meant⟩ := ih
      rw [List.flatMap_cons, List.append_assoc, List.singleton_append, split_append first.1, parts,
        Option.map_some, Option.bind_some, List.mapM_cons, first.2, meant]
      rfl

/-! ### Samples -/

theorem samples_append (name : String) (lines others : List Line) :
    samples name (lines ++ others) = samples name lines ++ samples name others :=
  List.filterMap_append

theorem number?_of_samples {name : String} {lines : List Line} {number : Nat}
    (single : samples name lines = [(none, Text.decimalText number)]) :
    number? name lines = some number := by
  rw [number?, single, Text.decimalText]
  simp only [String.toList_ofList, Text.readDecimal_decimal]

theorem numbers?_of_samples {α : Type} {name : String} {lines : List Line} {items : List α}
    {bound : α → Option String} {number : α → Nat}
    (shown : samples name lines =
      items.map fun item => (bound item, Text.decimalText (number item))) :
    numbers? name lines = some (items.map fun item => (bound item, number item)) := by
  rw [numbers?, shown]
  clear shown
  induction items with
  | nil => rfl
  | cons item items ih =>
      rw [List.map_cons, List.mapM_cons, ih, Text.decimalText]
      simp only [String.toList_ofList, Text.readDecimal_decimal]
      rfl

end Line
end Quorate.Metrics
