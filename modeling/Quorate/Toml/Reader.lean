import Quorate.Toml.Moment
import Quorate.Toml.Number
import Quorate.Toml.Statement
import Quorate.Toml.Text

/-!
Reads TOML documents. A document is a list of statements with blanks, line ends and comments
between them, and each statement has its line to itself.
-/

namespace Quorate.Toml

def skipSpace (text : List Char) : List Char := text.dropWhile isSpace

/-- Skips blanks, line ends and comments; the first argument tells whether a comment has begun. -/
def skipFiller : Bool → List Char → Option (List Char)
  | _, [] => some []
  | true, character :: rest =>
      if character = '\n' then skipFiller false rest
      else if isPlain character || character = '\r' then skipFiller true rest
      else none
  | false, character :: rest =>
      if character = '#' then skipFiller true rest
      else if isFiller character then skipFiller false rest
      else some (character :: rest)

/-- Goes on after a statement: its line has to end there, or with a comment. -/
def skipLineEnd (text : List Char) : Option (List Char) :=
  match skipSpace text with
  | [] => some []
  | '\n' :: rest => some rest
  | '#' :: rest => skipFiller true rest
  | _ => none

def isBare (character : Char) : Bool :=
  character.isAlphanum || character = '_' || character = '-'

def readName : List Char → Option (String × List Char)
  | '"' :: rest => (readBasic .nothing rest).map fun (name, rest) => (String.ofList name, rest)
  | '\'' :: rest => (readLiteral rest).map fun (name, rest) => (String.ofList name, rest)
  | text =>
      let name := text.takeWhile isBare
      if name.isEmpty then none else some (String.ofList name, text.dropWhile isBare)

/-- How many names a key may have, and how deep arrays and tables in braces may lie. -/
def deepest : Nat := 80

/-- A dotted key and the blanks around it. The first argument bounds the number of its names. -/
def readKey : Nat → List Char → Option (List String × List Char)
  | 0, _ => none
  | bound + 1, text => do
      let (name, rest) ← readName (skipSpace text)
      match skipSpace rest with
      | '.' :: rest =>
          let (names, rest) ← readKey bound rest
          pure (name :: names, rest)
      | rest => pure ([name], rest)

def isWordCharacter (character : Char) : Bool :=
  character.isAlphanum || character = '_' || character = '-' || character = '+'
    || character = '.' || character = ':'

/-- Splits off a word; a date takes along a time that stands one blank after it. -/
def takeWord (text : List Char) : List Char × List Char :=
  let word := text.takeWhile isWordCharacter
  let rest := text.dropWhile isWordCharacter
  match rest with
  | ' ' :: digit :: more =>
      if isDate word && digit.isDigit then
        (word ++ ' ' :: (digit :: more).takeWhile isWordCharacter,
          (digit :: more).dropWhile isWordCharacter)
      else (word, rest)
  | _ => (word, rest)

def ofWord (word : List Char) : Option Toml :=
  if word = ['t', 'r', 'u', 'e'] then some (.bool true)
  else if word = ['f', 'a', 'l', 's', 'e'] then some (.bool false)
  else (readInteger word).or ((readFloat word).or (readMoment word))

mutual

/-- Reads one value. The first argument bounds the number of nested calls, the second the depth of
the arrays and tables that may begin here. -/
def readValue : Nat → Nat → List Char → Option (Toml × List Char)
  | 0, _, _ => none
  | bound + 1, depth, text =>
      match depth, text with
      | depth + 1, '[' :: rest => do
          let (items, rest) ← readItems bound depth rest
          pure (.array items, rest)
      | depth + 1, '{' :: rest => do
          let (entries, rest) ← readEntries bound depth rest
          pure (.table (← Table.ofEntries? entries), rest)
      | _, text =>
          match text.head? with
          | some '"' | some '\'' =>
              (readQuoted text).map fun (content, rest) => (.string (String.ofList content), rest)
          | _ =>
              let (word, rest) := takeWord text
              (ofWord word).map fun value => (value, rest)

def readItems : Nat → Nat → List Char → Option (List Toml × List Char)
  | 0, _, _ => none
  | bound + 1, depth, text => do
      match ← skipFiller false text with
      | ']' :: rest => pure ([], rest)
      | text =>
          let (item, rest) ← readValue bound depth text
          match ← skipFiller false rest with
          | ',' :: rest =>
              let (items, rest) ← readItems bound depth rest
              pure (item :: items, rest)
          | ']' :: rest => pure ([item], rest)
          | _ => none

def readEntries : Nat → Nat → List Char → Option (List (List String × Toml) × List Char)
  | 0, _, _ => none
  | bound + 1, depth, text => do
      match ← skipFiller false text with
      | '}' :: rest => pure ([], rest)
      | text =>
          let (path, rest) ← readKey deepest text
          match rest with
          | '=' :: rest =>
              let (value, rest) ← readValue bound depth (skipSpace rest)
              match ← skipFiller false rest with
              | ',' :: rest =>
                  let (entries, rest) ← readEntries bound depth rest
                  pure ((path, value) :: entries, rest)
              | '}' :: rest => pure ([(path, value)], rest)
              | _ => none
          | _ => none

end

def readStatement (bound : Nat) : List Char → Option (Statement × List Char)
  | '[' :: '[' :: rest => do
      let (path, rest) ← readKey deepest rest
      match rest with
      | ']' :: ']' :: rest => pure (.element path, rest)
      | _ => none
  | '[' :: rest => do
      let (path, rest) ← readKey deepest rest
      match rest with
      | ']' :: rest => pure (.header path, rest)
      | _ => none
  | text => do
      let (path, rest) ← readKey deepest text
      match rest with
      | '=' :: rest =>
          let (value, rest) ← readValue bound deepest (skipSpace rest)
          pure (.entry path value, rest)
      | _ => none

/-- Reads statements to the end of the text; the first argument bounds their number. -/
def readStatements : Nat → List Char → Option (List Statement)
  | 0, _ => none
  | bound + 1, text => do
      match ← skipFiller false text with
      | [] => pure []
      | text =>
          let (statement, rest) ← readStatement (bound + 1) text
          let rest ← skipLineEnd rest
          let statements ← readStatements bound rest
          pure (statement :: statements)

def dropMark : List Char → List Char
  | '\uFEFF' :: rest => rest
  | text => text

def read (document : String) : Option Table :=
  let text := dropMark document.toList
  if returnsPaired text then
    (readStatements (text.length + 1) text).bind Table.ofStatements?
  else none

end Quorate.Toml
