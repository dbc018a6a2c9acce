import Quorate.Text.Numeral

/-!
Reads decimal texts as the nearest floating-point numbers of 64 bits. A number may have a sign, a
fraction and an exponent; `inf`, `infinity` and `nan` are known in either case.
-/

namespace Quorate.Binary64

/-- The nearest number to `digits` times ten to the power `exponent`. Magnitudes far outside the
range are decided by their order alone. -/
def nearest (digits : List Char) (exponent : Int) : Float :=
  let significant := digits.dropWhile (· == '0')
  let order : Int := significant.length + exponent
  if significant.isEmpty || order < -400 then 0.0
  else if 400 < order then Float.ofBits 0x7FF0000000000000
  else Float.ofScientific (Text.decimalValue significant) (exponent < 0) exponent.natAbs

def signed (negative : Bool) (value : Float) : Float := if negative then -value else value

def takeSign : List Char → Bool × List Char
  | '-' :: rest => (true, rest)
  | '+' :: rest => (false, rest)
  | text => (false, text)

def readExponent : List Char → Option Int
  | [] => some 0
  | mark :: rest =>
      if mark = 'e' || mark = 'E' then
        let (negative, digits) := takeSign rest
        (Text.readDecimal digits).map fun exponent =>
          if negative then -(exponent : Int) else (exponent : Int)
      else none

def readUnsigned (text : List Char) : Option Float :=
  let whole := text.takeWhile Char.isDigit
  let afterWhole := text.dropWhile Char.isDigit
  let (fraction, rest) := match afterWhole with
    | '.' :: rest => (rest.takeWhile Char.isDigit, rest.dropWhile Char.isDigit)
    | rest => ([], rest)
  let digits := whole ++ fraction
  if digits.isEmpty then none
  else (readExponent rest).map fun exponent => nearest digits (exponent - fraction.length)

def read (text : String) : Option Float :=
  let (negative, rest) := takeSign text.toList
  let word := String.ofList (rest.map Char.toLower)
  if word = "inf" || word = "infinity" then
    some (signed negative (Float.ofBits 0x7FF0000000000000))
  else if word = "nan" then some (signed negative (Float.ofBits 0x7FF8000000000000))
  else (readUnsigned rest).map (signed negative)

end Quorate.Binary64
