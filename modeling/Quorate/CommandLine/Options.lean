import Quorate.Text.Numeral

/-!
Words of a command line that are options. An option is written `--name value` or `--name=value`, a
flag `--name`. Nothing is given twice. The first word that is no option ends the options.
-/

namespace Quorate.CommandLine

inductive OptionKind where
  | flag
  | text
  /-- The name of a file, which is not empty. -/
  | path
  /-- An unsigned number of 64 bits. -/
  | count
  /-- An unsigned number of 32 bits. Zero may have a minus. -/
  | retries
deriving DecidableEq, Repr

inductive Refusal where
  | help
  | misuse
deriving DecidableEq, Repr

inductive Word where
  /-- Two hyphens: no options follow. -/
  | separator
  | long (name : String) (value : Option String)
  | short (letters : List Char)
  | plain
deriving DecidableEq, Repr

/-- A name with the value after its first equals sign, if it has one. -/
def splitValue (text : List Char) : String × Option String :=
  match text.dropWhile (· ≠ '=') with
  | [] => (String.ofList text, none)
  | _ :: value => (String.ofList (text.takeWhile (· ≠ '=')), some (String.ofList value))

/-- A hyphen alone is a plain word. -/
def Word.of (text : String) : Word :=
  match text.toList with
  | ['-', '-'] => .separator
  | '-' :: '-' :: rest => .long (splitValue rest).1 (splitValue rest).2
  | '-' :: letter :: rest => .short (letter :: rest)
  | _ => .plain

def readCount (text : String) : Option Nat :=
  match text.toList with
  | '+' :: digits => Text.readDecimalBelow UInt64.size digits
  | digits => Text.readDecimalBelow UInt64.size digits

def readRetries (text : String) : Option Nat :=
  match text.toList with
  | '+' :: digits => Text.readDecimalBelow UInt32.size digits
  | '-' :: digits => Text.readDecimalBelow 1 digits
  | digits => Text.readDecimalBelow UInt32.size digits

def OptionKind.accepts (kind : OptionKind) (value : String) : Bool :=
  match kind with
  | .flag => false
  | .text => true
  | .path => value ≠ ""
  | .count => (readCount value).isSome
  | .retries => (readRetries value).isSome

/-- The options found, each with its value; a flag has an empty one. -/
abbrev Given := List (String × String)

/-- Adds an option unless it has been given or does not take the value. -/
def Given.add (given : Given) (name value : String) (fits : Bool) : Except Refusal Given :=
  if fits && (given.lookup name).isNone then .ok ((name, value) :: given) else .error .misuse

/-- Takes the options from the front of a command line. What is left begins with a plain word. -/
def scan (known : List (String × OptionKind)) :
    Given → List String → Except Refusal (Given × List String)
  | given, [] => .ok (given, [])
  | given, word :: rest =>
      match Word.of word with
      | .plain => .ok (given, word :: rest)
      | .separator => if rest.isEmpty then .ok (given, []) else .error .misuse
      | .short letters => .error (if letters.head? = some 'h' then .help else .misuse)
      | .long name value =>
          match known.lookup name, value, rest with
          | none, value, _ => .error (if name = "help" ∧ value = none then .help else .misuse)
          | some .flag, none, rest => do
              let given ← given.add name "" true
              scan known given rest
          | some kind, some value, rest => do
              let given ← given.add name value (kind.accepts value)
              scan known given rest
          | some kind, none, value :: rest => do
              let given ← given.add name value (Word.of value = .plain && kind.accepts value)
              scan known given rest
          | some _, none, [] => .error .misuse

end Quorate.CommandLine
