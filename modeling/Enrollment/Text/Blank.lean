import Enrollment.Text.Range

/-!
# White space

The characters with the property White_Space, and trimming them off both ends of a text.
-/

namespace Enrollment.Text

def blankRanges : List Range :=
  [(0x9, 0xD), (0x20, 0x20), (0x85, 0x85), (0xA0, 0xA0), (0x1680, 0x1680), (0x2000, 0x200A),
   (0x2028, 0x2029), (0x202F, 0x202F), (0x205F, 0x205F), (0x3000, 0x3000)]

def isBlank (c : Char) : Bool := blankRanges.any (·.holds c)

/-- `cs` without the characters at either end that satisfy `p`. -/
def stripWhere (p : Char → Bool) (cs : List Char) : List Char :=
  ((cs.dropWhile p).reverse.dropWhile p).reverse

/-- `s` without the white space at its ends. -/
def trim (s : String) : String := String.ofList (stripWhere isBlank s.toList)

example : trim "\u3000 a\u00A0b\x0B\n" = "a\u00A0b" := by decide +kernel

end Enrollment.Text
