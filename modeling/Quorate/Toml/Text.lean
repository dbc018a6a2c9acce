import Quorate.Text.Numeral

/-!
Quoted texts of TOML, on one line or on several. Between double quotes a backslash begins an
escape; between single quotes every character stands for itself. Line ends belong to a text as they
stand. A carriage return is a blank here: a document is read only if a line feed follows each.
-/

namespace Quorate.Toml

def isPlain (character : Char) : Bool :=
  character = '\t' || (0x20 ≤ character.toNat && character.toNat ≠ 0x7F)

def isSpace (character : Char) : Bool :=
  character = ' ' || character = '\t' || character = '\r'

def isFiller (character : Char) : Bool := isSpace character || character = '\n'

def isLong (character : Char) : Bool :=
  isPlain character || character = '\r' || character = '\n'

def returnsPaired : List Char → Bool
  | [] => true
  | '\r' :: '\n' :: rest => returnsPaired rest
  | character :: rest => character ≠ '\r' && returnsPaired rest

/-- What the characters read last leave open. -/
inductive Pending where
  | nothing
  | escape
  | code (digits : Nat) (value : Nat)
  /-- A backslash and blanks: the line has to end. -/
  | lineEnd
  /-- A backslash and a line end: blanks and line ends are passed over. -/
  | joining
deriving DecidableEq

def simpleEscape? : Char → Option Char
  | 'b' => some '\x08'
  | 't' => some '\t'
  | 'n' => some '\n'
  | 'f' => some '\x0c'
  | 'r' => some '\r'
  | 'e' => some '\x1b'
  | '"' => some '"'
  | '\\' => some '\\'
  | _ => none

/-- How many digits follow the letter of an escape. -/
def codeDigits? : Char → Option Nat
  | 'x' => some 2
  | 'u' => some 4
  | 'U' => some 8
  | _ => none

/-- The character with a code; surrogates and codes beyond the last character have none. -/
def character? (code : Nat) : Option Char :=
  if code < 0xD800 ∨ (0xDFFF < code ∧ code < 0x110000) then some (Char.ofNat code) else none

def putBefore (character : Char) (result : Option (List Char × List Char)) :
    Option (List Char × List Char) :=
  result.map fun (content, rest) => (character :: content, rest)

def readBasic : Pending → List Char → Option (List Char × List Char)
  | _, [] => none
  | .escape, letter :: rest =>
      match simpleEscape? letter, codeDigits? letter with
      | some character, _ => putBefore character (readBasic .nothing rest)
      | none, some digits => readBasic (.code digits 0) rest
      | none, none => none
  | .code digits value, digit :: rest => do
      let value := 16 * value + (← Text.hexDigitValue? digit)
      if digits ≤ 1 then
        let character ← character? value
        putBefore character (readBasic .nothing rest)
      else readBasic (.code (digits - 1) value) rest
  | _, '"' :: rest => some ([], rest)
  | _, '\\' :: rest => readBasic .escape rest
  | _, character :: rest =>
      if isPlain character then putBefore character (readBasic .nothing rest) else none

def readLiteral : List Char → Option (List Char × List Char)
  | [] => none
  | '\'' :: rest => some ([], rest)
  | character :: rest =>
      if isPlain character then putBefore character (readLiteral rest) else none

/-- What follows three closing quotes: up to two more of them belong to the text. -/
def closeLong (quote : Char) : List Char → List Char × List Char
  | first :: second :: rest =>
      if first = quote then
        if second = quote then ([quote, quote], rest) else ([quote], second :: rest)
      else ([], first :: second :: rest)
  | [only] => if only = quote then ([quote], []) else ([], [only])
  | [] => ([], [])

def readLongBasic : Pending → List Char → Option (List Char × List Char)
  | _, [] => none
  | .escape, letter :: rest =>
      match simpleEscape? letter, codeDigits? letter with
      | some character, _ => putBefore character (readLongBasic .nothing rest)
      | none, some digits => readLongBasic (.code digits 0) rest
      | none, none =>
          if letter = '\n' then readLongBasic .joining rest
          else if isSpace letter then readLongBasic .lineEnd rest
          else none
  | .code digits value, digit :: rest => do
      let value := 16 * value + (← Text.hexDigitValue? digit)
      if digits ≤ 1 then
        let character ← character? value
        putBefore character (readLongBasic .nothing rest)
      else readLongBasic (.code (digits - 1) value) rest
  | .lineEnd, character :: rest =>
      if character = '\n' then readLongBasic .joining rest
      else if isSpace character then readLongBasic .lineEnd rest
      else none
  | _, '"' :: '"' :: '"' :: rest => some (closeLong '"' rest)
  | _, '\\' :: rest => readLongBasic .escape rest
  | pending, character :: rest =>
      if pending = .joining ∧ isFiller character then readLongBasic .joining rest
      else if isLong character then putBefore character (readLongBasic .nothing rest)
      else none

def readLongLiteral : List Char → Option (List Char × List Char)
  | [] => none
  | '\'' :: '\'' :: '\'' :: rest => some (closeLong '\'' rest)
  | character :: rest =>
      if isLong character then putBefore character (readLongLiteral rest) else none

/-- A line end right after three opening quotes does not belong to the text. -/
def dropLineEnd : List Char → List Char
  | '\n' :: rest => rest
  | '\r' :: '\n' :: rest => rest
  | text => text

def readQuoted : List Char → Option (List Char × List Char)
  | '"' :: '"' :: '"' :: rest => readLongBasic .nothing (dropLineEnd rest)
  | '\'' :: '\'' :: '\'' :: rest => readLongLiteral (dropLineEnd rest)
  | '"' :: rest => readBasic .nothing rest
  | '\'' :: rest => readLiteral rest
  | _ => none

end Quorate.Toml
