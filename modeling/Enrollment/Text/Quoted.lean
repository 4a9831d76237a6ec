import Enrollment.Text.Combining
import Enrollment.Text.Unprintable

/-!
# Quoted text for a diagnostic

A diagnostic shows a text between double quotes, so that it can be told from the words
around it. The quote and the backslash are escaped, the usual controls have letters, and
whatever could not be seen, or would be drawn on the character in front of it, is
spelled by its code point.
-/

namespace Enrollment.Text

/-- The code point in lower-case hexadecimal, without leading zeros. -/
def codePointEscape (c : Char) : List Char :=
  ['\\', 'u', '\x7b'] ++ Nat.toDigits 16 c.toNat ++ ['\x7d']

def quotedChar (c : Char) : List Char :=
  if c = '"' ∨ c = '\\' then ['\\', c]
  else if c = '\n' then ['\\', 'n']
  else if c = '\r' then ['\\', 'r']
  else if c = '\t' then ['\\', 't']
  else if c = '\x00' then ['\\', '0']
  else if isCombining c || isUnprintable c then codePointEscape c
  else [c]

/-- `s` between double quotes. -/
def quoted (s : String) : String :=
  String.ofList ('"' :: s.toList.flatMap quotedChar ++ ['"'])

end Enrollment.Text
