import Quorate.Text.Numeral

/-!
Reads the text form of metrics, as a collector does that knows nothing of who wrote it: line by
line, a help, a type or a sample, which may have a label for the bound of a bucket.
-/

namespace Quorate.Metrics

inductive Line where
  | help (family : String) (content : String)
  | kind (family : String) (kind : String)
  | sample (name : String) (bound : Option String) (value : String)
deriving DecidableEq, Repr

namespace Line

def ofWords (make : String → String → Line) (text : List Char) : Option Line :=
  match text.dropWhile (· ≠ ' ') with
  | ' ' :: rest => some (make (String.ofList (text.takeWhile (· ≠ ' '))) (String.ofList rest))
  | _ => none

/-- The end of a name: a blank, or the brace that opens the labels. -/
def isNameEnd (character : Char) : Bool := character = ' ' || character = '{'

def readSample (text : List Char) : Option Line :=
  let name := String.ofList (text.takeWhile fun character => !isNameEnd character)
  match text.dropWhile fun character => !isNameEnd character with
  | ' ' :: value => some (.sample name none (String.ofList value))
  | '{' :: 'l' :: 'e' :: '=' :: '"' :: rest =>
      match rest.dropWhile (· ≠ '"') with
      | '"' :: '}' :: ' ' :: value =>
          some (.sample name (some (String.ofList (rest.takeWhile (· ≠ '"'))))
            (String.ofList value))
      | _ => none
  | _ => none

def read : List Char → Option Line
  | '#' :: ' ' :: 'H' :: 'E' :: 'L' :: 'P' :: ' ' :: rest => ofWords .help rest
  | '#' :: ' ' :: 'T' :: 'Y' :: 'P' :: 'E' :: ' ' :: rest => ofWords .kind rest
  | text => readSample text

/-- The bound and the value of a sample of the given name. -/
def sampleOf? (name : String) : Line → Option (Option String × String)
  | .sample other bound value => if other = name then some (bound, value) else none
  | .help _ _ => none
  | .kind _ _ => none

/-- Splits a text into lines, each of which has to have its end. -/
def split : List Char → Option (List (List Char))
  | [] => some []
  | '\n' :: rest => (split rest).map ([] :: ·)
  | character :: rest =>
      match split rest with
      | some (line :: lines) => some ((character :: line) :: lines)
      | _ => none

def readAll (text : String) : Option (List Line) := (split text.toList).bind (List.mapM read)

/-- All samples of a name, in order. -/
def samples (name : String) (lines : List Line) : List (Option String × String) :=
  lines.filterMap (sampleOf? name)

/-- The number that a name stands for; none unless it has a single sample, without a label. -/
def number? (name : String) (lines : List Line) : Option Nat :=
  match samples name lines with
  | [(none, value)] => Text.readDecimal value.toList
  | _ => none

/-- The numbers that a name stands for, label by label. -/
def numbers? (name : String) (lines : List Line) : Option (List (Option String × Nat)) :=
  (samples name lines).mapM fun (bound, value) =>
    (Text.readDecimal value.toList).map fun number => (bound, number)

end Line
end Quorate.Metrics
