/-!
# Ranges of characters

A character property is given by a list of ranges of code points, both ends included.
-/

namespace Enrollment.Text

/-- The first and the last code point of a run. -/
abbrev Range := Nat × Nat

def Range.holds (r : Range) (c : Char) : Bool := r.1 ≤ c.toNat && c.toNat ≤ r.2

end Enrollment.Text
