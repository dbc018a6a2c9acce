import Quorate.Json.Basic

/-!
Reads JSON text. The grammar is strict: no comments, no trailing commas, no leading zeros, and no
control characters inside texts.
-/

namespace Quorate.Json

def isSpace (character : Char) : Bool :=
  character = ' ' || character = '\n' || character = '\t' || character = '\r'

def skipSpace (text : List Char) : List Char := text.dropWhile isSpace

/-- A part of a text: a character, or a code unit given by an escape. -/
inductive Piece where
  | character (character : Char)
  | unit (unit : Nat)

def simpleEscape? : Char → Option Char
  | '"' => some '"'
  | '\\' => some '\\'
  | '/' => some '/'
  | 'b' => some '\x08'
  | 'f' => some '\x0c'
  | 'n' => some '\n'
  | 'r' => some '\r'
  | 't' => some '\t'
  | _ => none

def readUnit (first second third fourth : Char) : Option Nat := do
  let first ← Text.hexDigitValue? first
  let second ← Text.hexDigitValue? second
  let third ← Text.hexDigitValue? third
  let fourth ← Text.hexDigitValue? fourth
  pure (((first * 16 + second) * 16 + third) * 16 + fourth)

def readPieces : List Char → Option (List Piece × List Char)
  | [] => none
  | '"' :: rest => some ([], rest)
  | '\\' :: 'u' :: first :: second :: third :: fourth :: rest => do
      let unit ← readUnit first second third fourth
      let (pieces, rest) ← readPieces rest
      pure (.unit unit :: pieces, rest)
  | '\\' :: letter :: rest => do
      let character ← simpleEscape? letter
      let (pieces, rest) ← readPieces rest
      pure (.character character :: pieces, rest)
  | character :: rest =>
      if character.toNat < 0x20 || character = '\\' then none
      else do
        let (pieces, rest) ← readPieces rest
        pure (.character character :: pieces, rest)

def isHighHalf (unit : Nat) : Bool := 0xD800 ≤ unit && unit < 0xDC00

def isLowHalf (unit : Nat) : Bool := 0xDC00 ≤ unit && unit < 0xE000

/-- The characters that the pieces stand for; none if a surrogate half is left alone. -/
def joinPieces : List Piece → Option (List Char)
  | [] => some []
  | .character character :: rest => (joinPieces rest).map (character :: ·)
  | .unit high :: .unit low :: rest =>
      if isHighHalf high then
        if isLowHalf low then
          (joinPieces rest).map
            (Char.ofNat (0x10000 + (high - 0xD800) * 0x400 + (low - 0xDC00)) :: ·)
        else none
      else if isLowHalf high then none
      else (joinPieces (.unit low :: rest)).map (Char.ofNat high :: ·)
  | .unit unit :: rest =>
      if isHighHalf unit || isLowHalf unit then none
      else (joinPieces rest).map (Char.ofNat unit :: ·)

/-- Reads a text whose opening quote has been read. -/
def readText (text : List Char) : Option (Option String × List Char) := do
  let (pieces, rest) ← readPieces text
  pure ((joinPieces pieces).map String.ofList, rest)

def readDigits (text : List Char) : Option (List Char × List Char) :=
  let digits := text.takeWhile Char.isDigit
  if digits.isEmpty then none else some (digits, text.dropWhile Char.isDigit)

def readWhole : List Char → Option (List Char × List Char)
  | '0' :: rest => some (['0'], rest)
  | text => readDigits text

def readFraction : List Char → Option (List Char × List Char)
  | '.' :: rest => (readDigits rest).map fun (digits, rest) => ('.' :: digits, rest)
  | text => some ([], text)

def readExponent : List Char → Option (List Char × List Char)
  | mark :: rest =>
      if mark = 'e' || mark = 'E' then
        match rest with
        | '+' :: rest => (readDigits rest).map fun (digits, rest) => (mark :: '+' :: digits, rest)
        | '-' :: rest => (readDigits rest).map fun (digits, rest) => (mark :: '-' :: digits, rest)
        | rest => (readDigits rest).map fun (digits, rest) => (mark :: digits, rest)
      else some ([], mark :: rest)
  | [] => some ([], [])

def readUnsigned (text : List Char) : Option (List Char × List Char) := do
  let (whole, rest) ← readWhole text
  let (fraction, rest) ← readFraction rest
  let (exponent, rest) ← readExponent rest
  pure (whole ++ fraction ++ exponent, rest)

/-- A numeral. A digit after a leading zero ends it, and no value can go on there. -/
def readNumeral : List Char → Option (List Char × List Char)
  | '-' :: rest => (readUnsigned rest).map fun (numeral, rest) => ('-' :: numeral, rest)
  | text => readUnsigned text

def readName (text : List Char) : Option (Option String × List Char) :=
  match skipSpace text with
  | '"' :: rest => do
      let (name, rest) ← readText rest
      match skipSpace rest with
      | ':' :: rest => pure (name, rest)
      | _ => none
  | _ => none

mutual

/-- Reads one value. The first argument bounds the number of nested calls. -/
def readValue : Nat → List Char → Option (Json × List Char)
  | 0, _ => none
  | bound + 1, text =>
      match skipSpace text with
      | 'n' :: 'u' :: 'l' :: 'l' :: rest => some (.null, rest)
      | 't' :: 'r' :: 'u' :: 'e' :: rest => some (.bool true, rest)
      | 'f' :: 'a' :: 'l' :: 's' :: 'e' :: rest => some (.bool false, rest)
      | '"' :: rest => (readText rest).map fun (content, rest) => (.string content, rest)
      | '[' :: rest =>
          match skipSpace rest with
          | ']' :: rest => some (.array [], rest)
          | rest => do
              let (item, rest) ← readValue bound rest
              let (items, rest) ← readItems bound rest
              pure (.array (item :: items), rest)
      | '{' :: rest =>
          match skipSpace rest with
          | '}' :: rest => some (.object [], rest)
          | rest => do
              let (name, rest) ← readName rest
              let (value, rest) ← readValue bound rest
              let (members, rest) ← readMembers bound rest
              pure (.object ((name, value) :: members), rest)
      | text => (readNumeral text).map fun (numeral, rest) => (.number numeral, rest)

def readItems : Nat → List Char → Option (List Json × List Char)
  | 0, _ => none
  | bound + 1, text =>
      match skipSpace text with
      | ']' :: rest => some ([], rest)
      | ',' :: rest => do
          let (item, rest) ← readValue bound rest
          let (items, rest) ← readItems bound rest
          pure (item :: items, rest)
      | _ => none

def readMembers : Nat → List Char → Option (List (Option String × Json) × List Char)
  | 0, _ => none
  | bound + 1, text =>
      match skipSpace text with
      | '}' :: rest => some ([], rest)
      | ',' :: rest => do
          let (name, rest) ← readName rest
          let (value, rest) ← readValue bound rest
          let (members, rest) ← readMembers bound rest
          pure ((name, value) :: members, rest)
      | _ => none

end

def read (text : String) : Option Json :=
  let characters := text.toList
  match readValue (characters.length + 1) characters with
  | some (json, rest) => if (skipSpace rest).isEmpty then some json else none
  | none => none

end Quorate.Json
