import Enrollment.Text.Digits
import Enrollment.Text.Utf8

/-!
# Percent escapes

A character that must not stand in some part of a URL is written as its UTF-8 bytes, each
behind a percent sign in upper-case hexadecimal. Controls and characters outside ASCII are
always escaped; each part of a URL adds characters of its own.
-/

namespace Enrollment.Url

open Text

/-- The controls, and all that is not ASCII. -/
def alwaysEscaped (c : Char) : Bool := c.toNat < 0x20 || 0x7E < c.toNat

def escapedInFragment (c : Char) : Bool := [' ', '"', '<', '>', '`'].contains c

def escapedInPath (c : Char) : Bool :=
  escapedInFragment c || ['#', '?', '\x7b', '\x7d'].contains c

def escapedInUserinfo (c : Char) : Bool :=
  escapedInPath c || ['/', ':', ';', '=', '@', '[', '\\', ']', '^', '|'].contains c

def escapedInQuery (c : Char) : Bool := [' ', '"', '#', '<', '>'].contains c

/-- The query of a special scheme also escapes the apostrophe. -/
def escapedInSpecialQuery (c : Char) : Bool := escapedInQuery c || c = '\''

def escapeByte (b : UInt8) : List Char :=
  ['%', (Nat.digitChar (b.toNat / 16)).toUpper, (Nat.digitChar (b.toNat % 16)).toUpper]

/-- `cs` with the characters escaped that satisfy `p` or have to be escaped anywhere. -/
def escape (p : Char → Bool) (cs : List Char) : List Char :=
  cs.flatMap fun c =>
    if alwaysEscaped c || p c then (Utf8.encode [c]).flatMap escapeByte else [c]

/-- The bytes that `cs` stands for; a percent sign without two digits stands for itself. -/
def unescape : List Char → List UInt8
  | [] => []
  | '%' :: a :: b :: cs =>
    match hexDigit? a, hexDigit? b with
    | some high, some low => (high * 16 + low).toUInt8 :: unescape cs
    | _, _ => Utf8.encode ['%'] ++ unescape (a :: b :: cs)
  | c :: cs => Utf8.encode [c] ++ unescape cs

example : escape escapedInPath "a é".toList = "a%20%C3%A9".toList := by decide +kernel

example : unescape "%41%".toList = [0x41, 0x25] := by decide +kernel

end Enrollment.Url
