import Quorate.Text.Numeral

/-!
JSON values as they are written. A numeral is kept as it stands, and a string whose escapes leave
half of a surrogate pair has no content.
-/

namespace Quorate

inductive Json where
  | null
  | bool (value : Bool)
  | number (numeral : List Char)
  | string (content : Option String)
  | array (items : List Json)
  | object (members : List (Option String × Json))

namespace Json

def ofNat (number : Nat) : Json := .number (Text.decimal number)

def ofString (content : String) : Json := .string (some content)

def ofMembers (members : List (String × Json)) : Json :=
  .object (members.map fun member => (some member.1, member.2))

end Json
end Quorate
