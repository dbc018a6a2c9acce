import Quorate.Text.Blank

/-!
The rule for keys: not empty, at most 1024 bytes in UTF-8, no control characters.
-/

namespace Quorate.Store.Key

/-- What makes a key unfit, in the order in which it is looked for. -/
inductive Fault where
  | empty
  | tooLong
  | controlCharacter
deriving DecidableEq, Repr

def Fault.message : Fault → String
  | .empty => "key cannot be empty"
  | .tooLong => "key too long (max 1024 bytes)"
  | .controlCharacter => "key contains invalid characters"

def longest : Nat := 1024

def check (key : String) : Except Fault Unit :=
  if key.isEmpty then .error .empty
  else if longest < key.utf8ByteSize then .error .tooLong
  else if key.toList.any Text.isControl then .error .controlCharacter
  else .ok ()

end Quorate.Store.Key
