import Enrollment.Json.Fault

/-!
# Reading from the front of a text

A reader takes a value off the front of a list of bytes and leaves the rest. That the rest
is shorter is part of the reader, so that lists and objects, whose members are read one
after the other, need no bound on the number of steps.

The lexical leaves that have no content of their own are here too: white space and the
words `null`, `true` and `false`.
-/

namespace Enrollment.Json

abbrev Bytes := List UInt8

/-! ## The bytes with a meaning of their own -/

namespace Mark

abbrev quote : UInt8 := 0x22
abbrev plus : UInt8 := 0x2B
abbrev comma : UInt8 := 0x2C
abbrev minus : UInt8 := 0x2D
abbrev point : UInt8 := 0x2E
abbrev slash : UInt8 := 0x2F
abbrev colon : UInt8 := 0x3A
abbrev openList : UInt8 := 0x5B
abbrev backslash : UInt8 := 0x5C
abbrev closeList : UInt8 := 0x5D
abbrev openObject : UInt8 := 0x7B
abbrev closeObject : UInt8 := 0x7D

abbrev letter (c : Char) : UInt8 := c.toUInt8

end Mark

/-! ## Readers -/

/-- A way to take a value off the front of a text. -/
structure Reader (α : Type) where
  run : Bytes → Except Fault (α × Bytes)
  shorter : ∀ {s a r}, run s = .ok (a, r) → r.length < s.length

/-- Space, tab, line feed and carriage return. -/
def isSpace (b : UInt8) : Bool := b = 0x20 || b = 0x09 || b = 0x0A || b = 0x0D

def skipSpace (s : Bytes) : Bytes := s.dropWhile isSpace

theorem length_dropWhile_le {α : Type} (p : α → Bool) (s : List α) :
    (s.dropWhile p).length ≤ s.length :=
  (List.dropWhile_suffix p).length_le

theorem length_skipSpace_le (s : Bytes) : (skipSpace s).length ≤ s.length :=
  length_dropWhile_le _ s

/-- What is left behind the first byte that is not white space is shorter. -/
theorem length_lt_of_skipSpace {s r : Bytes} {b : UInt8} (h : skipSpace s = b :: r) :
    r.length < s.length := by
  have := length_skipSpace_le s
  rw [h, List.length_cons] at this
  omega

/-- The rest of a word whose first letter has been read. -/
def expectWord : Bytes → Bytes → Except Fault Bytes
  | [], s => .ok s
  | _ :: _, [] => .error .endInValue
  | w :: ws, b :: s => if b = w then expectWord ws s else .error .expectedWord

theorem length_expectWord_le {w s r : Bytes} (h : expectWord w s = .ok r) :
    r.length ≤ s.length := by
  fun_induction expectWord w s with
  | case1 => cases h; omega
  | case2 => cases h
  | case3 _ _ _ ih => have := ih h; simp only [List.length_cons]; omega
  | case4 => cases h

abbrev wordNull : Bytes := [0x75, 0x6C, 0x6C]
abbrev wordTrue : Bytes := [0x72, 0x75, 0x65]
abbrev wordFalse : Bytes := [0x61, 0x6C, 0x73, 0x65]

end Enrollment.Json
