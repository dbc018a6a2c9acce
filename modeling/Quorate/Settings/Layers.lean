import Quorate.Text.Numeral
import Quorate.Toml.Basic

/-!
Layers of settings. A layer is a table; laid over another one it replaces values and merges tables.
Names at the top of a layer may be paths, which lead into the tables and arrays of the layer below:
words joined by points, and numbers in brackets that count from the front of an array or, if they
are negative, from its end. One layer comes from a file, one from environment variables.
-/

namespace Quorate

namespace Toml

mutual

def overlay : Toml → Option Toml → Toml
  | .table entries, lower => .table (overlayEntries entries ((lower.map Toml.entries).getD []))
  | .string content, _ => .string content
  | .integer value, _ => .integer value
  | .float value, _ => .float value
  | .bool value, _ => .bool value
  | .moment shown, _ => .moment shown
  | .array items, _ => .array items
  | .gap, _ => .gap

def overlayEntries : List (String × Toml) → List (String × Toml) → List (String × Toml)
  | [], lower => lower
  | (name, value) :: rest, lower =>
      overlayEntries rest (Table.set lower name (overlay value (lower.lookup name)))

end

end Toml

namespace Settings

open Toml

inductive PathStep where
  | name (name : String)
  | position (number : Int)
deriving DecidableEq, Repr

/-- Makes room for a position in an array, with gaps, and gives its index. -/
def makeRoom (items : List Toml) (position : Int) : List Toml × Nat :=
  if 0 ≤ position then
    (items ++ List.replicate (position.toNat + 1 - items.length) .gap, position.toNat)
  else
    let back := position.natAbs
    (List.replicate (back - items.length) .gap ++ items, items.length - back)

/-- Lays a value over what is at the end of a path. Whatever stands in the way gives way to the
table or array that the path asks for. -/
def place (value : Toml) : List PathStep → Option Toml → Toml
  | [], lower => value.overlay lower
  | .name name :: rest, lower =>
      let entries := (lower.map Toml.entries).getD []
      .table (Table.set entries name (place value rest (entries.lookup name)))
  | .position position :: rest, lower =>
      let (items, index) := makeRoom ((lower.map Toml.items).getD []) position
      .array (items.set index (place value rest items[index]?))

def isPathCharacter (character : Char) : Bool :=
  character.isAlphanum || character = '_' || character = '-'

def isPathSpace (character : Char) : Bool := character = ' ' || character = '\t'

/-- A number that fits a signed word of 64 bits, up to the bracket that closes it. -/
def readPosition (text : List Char) : Option (Int × List Char) :=
  let trimmed := text.dropWhile isPathSpace
  let (negative, unsigned) := match trimmed with
    | '-' :: rest => (true, rest)
    | rest => (false, rest)
  match (unsigned.dropWhile Char.isDigit).dropWhile isPathSpace with
  | ']' :: rest =>
      (Text.readDecimal (unsigned.takeWhile Char.isDigit)).bind fun magnitude =>
        let number : Int := if negative then -(magnitude : Int) else magnitude
        if Int64.minValue.toInt ≤ number ∧ number ≤ Int64.maxValue.toInt then some (number, rest)
        else none
  | _ => none

/-- The steps of a path whose first word has a point before it, too. The first argument bounds
their number. -/
def readSteps : Nat → List Char → Option (List PathStep)
  | _, [] => some []
  | 0, _ => none
  | bound + 1, '.' :: rest =>
      let word := rest.takeWhile isPathCharacter
      if word.isEmpty then none
      else
        (readSteps bound (rest.dropWhile isPathCharacter)).map
          (PathStep.name (String.ofList word) :: ·)
  | bound + 1, '[' :: rest => do
      let (number, rest) ← readPosition rest
      let steps ← readSteps bound rest
      pure (.position number :: steps)
  | _, _ => none

/-- The path that a name stands for. A name that is no proper path stands for itself. -/
def path (name : String) : List PathStep :=
  let text := '.' :: name.toList
  (readSteps text.length text).getD [.name name]

def layer (lower : Table) (upper : Table) : Table :=
  upper.foldl (fun table entry => (place entry.2 (path entry.1) (some (.table table))).entries)
    lower

/-- Begins the names of the variables that are settings. -/
def variableMark : List Char := "hivesync_".toList

/-- Two underscores separate the levels of a variable's name, which points do in a path. -/
def withPoints : List Char → List Char
  | [] => []
  | '_' :: '_' :: rest => '.' :: withPoints rest
  | character :: rest => character :: withPoints rest

/-- The name of the setting that a variable gives. Case does not matter. -/
def settingName? (variableName : String) : Option String :=
  let name := variableName.toList.map Char.toLower
  if variableMark.isPrefixOf name then
    some (String.ofList (withPoints (name.drop variableMark.length)))
  else none

/-- The layer of the environment. All its values are texts. -/
def environmentLayer (environment : List (String × String)) : Table :=
  environment.filterMap fun entry => (settingName? entry.1).map fun name => (name, .string entry.2)

end Settings
end Quorate
