import SensorClient.Text.Ranges

/-!
# Blank characters

## Main definitions

* `Text.isBlank`: spaces, line ends and the other characters that only separate
* `Text.strip`: a text without the blanks at its two ends
-/

namespace SensorClient.Text

/-- The characters with the property White_Space. -/
def blankRanges : List (Nat × Nat) :=
  [(0x9, 0xd), (0x20, 0x20), (0x85, 0x85), (0xa0, 0xa0), (0x1680, 0x1680), (0x2000, 0x200a),
   (0x2028, 0x2029), (0x202f, 0x202f), (0x205f, 0x205f), (0x3000, 0x3000)]

/-- Whether a character is blank. -/
def isBlank (c : Char) : Bool := within blankRanges c

/-- The text without the blanks before its first and after its last other character. -/
def strip (text : List Char) : List Char :=
  ((text.dropWhile isBlank).reverse.dropWhile isBlank).reverse

end SensorClient.Text
