import Quorate.Binary64.Order
import Quorate.Binary64.Reader
import Quorate.Toml.Basic

/-!
Numbers of TOML. Digits may be grouped by single underscores, whole parts have no leading zeros,
and integers fit a signed word of 64 bits.
-/

namespace Quorate.Toml

/-- The digits of a group without its underscores, each of which stands between two digits. -/
def ungroup (accepted : Char → Bool) : List Char → Option (List Char)
  | [] => none
  | [digit] => if accepted digit then some [digit] else none
  | digit :: '_' :: rest =>
      if accepted digit then (ungroup accepted rest).map (digit :: ·) else none
  | digit :: rest =>
      if accepted digit then (ungroup accepted rest).map (digit :: ·) else none

/-- The digits of a decimal group whose first digit is zero only if it is the only one. -/
def ungroupWhole (word : List Char) : Option (List Char) :=
  (ungroup Char.isDigit word).filter fun digits => digits = ['0'] || digits.head? ≠ some '0'

def digitBelow (base : Nat) (digit : Char) : Bool :=
  match Text.hexDigitValue? digit with
  | some value => value < base
  | none => false

def valueIn (base : Nat) (digits : List Char) : Nat :=
  digits.foldl (fun value digit => base * value + (Text.hexDigitValue? digit).getD 0) 0

def readMagnitude : List Char → Option Nat
  | '0' :: 'x' :: rest => (ungroup (digitBelow 16) rest).map (valueIn 16)
  | '0' :: 'o' :: rest => (ungroup (digitBelow 8) rest).map (valueIn 8)
  | '0' :: 'b' :: rest => (ungroup (digitBelow 2) rest).map (valueIn 2)
  | word => (ungroupWhole word).map Text.decimalValue

/-- An integer, whether or not it fits. Only decimal numerals take a sign. -/
def readUnbounded : List Char → Option Int
  | '+' :: rest => (ungroupWhole rest).map fun digits => (Text.decimalValue digits : Int)
  | '-' :: rest => (ungroupWhole rest).map fun digits => -(Text.decimalValue digits : Int)
  | word => (readMagnitude word).map fun magnitude => (magnitude : Int)

def readInteger (word : List Char) : Option Toml :=
  (readUnbounded word).bind fun value =>
    if Int64.minValue.toInt ≤ value ∧ value ≤ Int64.maxValue.toInt then some (.integer value)
    else none

def isExponentMark (character : Char) : Bool := character = 'e' || character = 'E'

/-- The digits after the point; there are some if there is a point. -/
def readFraction : List Char → Option (List Char)
  | [] => some []
  | '.' :: digits => ungroup Char.isDigit digits
  | _ => none

def readExponent : List Char → Option Int
  | [] => some 0
  | _ :: rest =>
      let (negative, digits) := Binary64.takeSign rest
      (ungroup Char.isDigit digits).map fun digits =>
        if negative then -(Text.decimalValue digits : Int) else (Text.decimalValue digits : Int)

/-- A number with a fraction or an exponent. One that is beyond all finite numbers is refused. -/
def readFinite (word : List Char) : Option Float := do
  guard (word.any fun character => character = '.' || isExponentMark character)
  let mantissa := word.takeWhile fun character => !isExponentMark character
  let whole ← ungroupWhole (mantissa.takeWhile (· ≠ '.'))
  let fraction ← readFraction (mantissa.dropWhile (· ≠ '.'))
  let exponent ← readExponent (word.dropWhile fun character => !isExponentMark character)
  let value := Binary64.nearest (whole ++ fraction) (exponent - fraction.length)
  if Binary64.magnitude value = Binary64.infiniteMagnitude then none else some value

def readFloat (word : List Char) : Option Toml :=
  let (negative, rest) := Binary64.takeSign word
  let value := match rest with
    | ['i', 'n', 'f'] => some (Float.ofBits 0x7FF0000000000000)
    | ['n', 'a', 'n'] => some (Float.ofBits 0x7FF8000000000000)
    | rest => readFinite rest
  value.map fun value => .float (Binary64.signed negative value)

end Quorate.Toml
