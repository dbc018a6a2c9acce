/-!
Blank and control characters, as tables of code point ranges, and trimming.
This is a module of character classes. It does not split or normalise text.
-/

namespace Quorate.Text

/-- Inclusive ranges of the code points that have the property White_Space. -/
def blankRanges : List (Nat × Nat) :=
  [(0x09, 0x0D), (0x20, 0x20), (0x85, 0x85), (0xA0, 0xA0), (0x1680, 0x1680),
   (0x2000, 0x200A), (0x2028, 0x2029), (0x202F, 0x202F), (0x205F, 0x205F), (0x3000, 0x3000)]

/-- Inclusive ranges of the code points of general category Cc. -/
def controlRanges : List (Nat × Nat) := [(0x00, 0x1F), (0x7F, 0x9F)]

def inRanges (ranges : List (Nat × Nat)) (character : Char) : Bool :=
  ranges.any fun range => range.1 ≤ character.toNat && character.toNat ≤ range.2

def isBlank (character : Char) : Bool := inRanges blankRanges character

def isControl (character : Char) : Bool := inRanges controlRanges character

def trim (text : List Char) : List Char :=
  ((text.dropWhile isBlank).reverse.dropWhile isBlank).reverse

end Quorate.Text
