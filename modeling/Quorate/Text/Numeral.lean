/-!
Decimal and hexadecimal numerals, and texts in braces. Decimal numerals are read only when every
character is an ASCII digit and there is at least one; leading zeros are allowed.
-/

namespace Quorate.Text

def decimal (number : Nat) : List Char := Nat.toDigits 10 number

def decimalText (number : Nat) : String := String.ofList (decimal number)

theorem decimalText_injective {left right : Nat}
    (same : decimalText left = decimalText right) : left = right := by
  have digits : Nat.toDigits 10 left = Nat.toDigits 10 right := String.ofList_injective same
  have values := congrArg (fun text => Nat.ofDigitChars 10 text 0) digits
  simpa only [Nat.ofDigitChars_ten_toDigits] using values

def digitValue (digit : Char) : Nat := digit.toNat - '0'.toNat

def decimalValue (digits : List Char) : Nat :=
  digits.foldl (fun value digit => 10 * value + digitValue digit) 0

def readDecimal (text : List Char) : Option Nat :=
  if text.isEmpty then none
  else if text.all Char.isDigit then some (decimalValue text)
  else none

/-- Reads a decimal numeral whose value lies below the given bound. -/
def readDecimalBelow (bound : Nat) (text : List Char) : Option Nat :=
  (readDecimal text).filter (· < bound)

def hexDigits : List Char :=
  ['0', '1', '2', '3', '4', '5', '6', '7', '8', '9', 'a', 'b', 'c', 'd', 'e', 'f']

def hexDigit (value : Nat) : Char := hexDigits.getD (value % 16) '0'

def hex (bytes : List UInt8) : String :=
  String.ofList (bytes.flatMap fun byte => [hexDigit (byte.toNat / 16), hexDigit (byte.toNat % 16)])

def hexDigitValue? (digit : Char) : Option Nat :=
  if digit.isDigit then some (digit.toNat - '0'.toNat)
  else if 'a' ≤ digit ∧ digit ≤ 'f' then some (digit.toNat - 'a'.toNat + 10)
  else if 'A' ≤ digit ∧ digit ≤ 'F' then some (digit.toNat - 'A'.toNat + 10)
  else none

def readHex : List Char → Option (List UInt8)
  | [] => some []
  | [_] => none
  | high :: low :: rest => do
      let high ← hexDigitValue? high
      let low ← hexDigitValue? low
      let rest ← readHex rest
      pure (UInt8.ofNat (16 * high + low) :: rest)

def braced (content : String) : String := String.ofList ('{' :: (content.toList ++ ['}']))

@[simp] theorem toList_braced (content : String) :
    (braced content).toList = '{' :: (content.toList ++ ['}']) :=
  String.toList_ofList

def utf8 (text : String) : List UInt8 := text.toUTF8.toList

end Quorate.Text
