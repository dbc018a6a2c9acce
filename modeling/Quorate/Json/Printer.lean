import Quorate.Json.Basic

/-!
JSON values as text, in a compact form and in one indented by two blanks. Quotes, backslashes and
characters below the blank are escaped; everything else stands for itself.
-/

namespace Quorate.Json

def escape (character : Char) : List Char :=
  match character with
  | '"' => ['\\', '"']
  | '\\' => ['\\', '\\']
  | '\x08' => ['\\', 'b']
  | '\t' => ['\\', 't']
  | '\n' => ['\\', 'n']
  | '\x0c' => ['\\', 'f']
  | '\r' => ['\\', 'r']
  | character =>
      if character.toNat < 0x20 then
        ['\\', 'u', '0', '0', Text.hexDigit (character.toNat / 16),
          Text.hexDigit (character.toNat % 16)]
      else [character]

/-- A quoted text. One without content is written as a single half of a surrogate pair. -/
def quote : Option String → List Char
  | some content => '"' :: (content.toList.flatMap escape ++ ['"'])
  | none => ['"', '\\', 'u', 'd', '8', '0', '0', '"']

mutual

def render : Json → List Char
  | .null => ['n', 'u', 'l', 'l']
  | .bool true => ['t', 'r', 'u', 'e']
  | .bool false => ['f', 'a', 'l', 's', 'e']
  | .number numeral => numeral
  | .string content => quote content
  | .array [] => ['[', ']']
  | .array (item :: items) => '[' :: (render item ++ renderItems items)
  | .object [] => ['{', '}']
  | .object ((name, value) :: members) =>
      '{' :: (quote name ++ ':' :: (render value ++ renderMembers members))

def renderItems : List Json → List Char
  | [] => [']']
  | item :: items => ',' :: (render item ++ renderItems items)

def renderMembers : List (Option String × Json) → List Char
  | [] => ['}']
  | (name, value) :: members =>
      ',' :: (quote name ++ ':' :: (render value ++ renderMembers members))

end

def print (json : Json) : String := String.ofList json.render

def newline (depth : Nat) : List Char := '\n' :: List.replicate (2 * depth) ' '

mutual

def renderIndented (depth : Nat) : Json → List Char
  | .array (item :: items) =>
      '[' :: (newline (depth + 1) ++ renderIndented (depth + 1) item
        ++ renderIndentedItems depth items)
  | .object ((name, value) :: members) =>
      '{' :: (newline (depth + 1) ++ quote name ++ ':' :: ' ' :: renderIndented (depth + 1) value
        ++ renderIndentedMembers depth members)
  | .null => render .null
  | .bool value => render (.bool value)
  | .number numeral => numeral
  | .string content => quote content
  | .array [] => ['[', ']']
  | .object [] => ['{', '}']

def renderIndentedItems (depth : Nat) : List Json → List Char
  | [] => newline depth ++ [']']
  | item :: items =>
      ',' :: (newline (depth + 1) ++ renderIndented (depth + 1) item
        ++ renderIndentedItems depth items)

def renderIndentedMembers (depth : Nat) : List (Option String × Json) → List Char
  | [] => newline depth ++ ['}']
  | (name, value) :: members =>
      ',' :: (newline (depth + 1) ++ quote name ++ ':' :: ' ' :: renderIndented (depth + 1) value
        ++ renderIndentedMembers depth members)

end

def printIndented (json : Json) : String := String.ofList (json.renderIndented 0)

end Quorate.Json
