/-!
# Digits

Numbers written with the digits of a base, as they occur in addresses and escapes.
-/

namespace Enrollment.Text

/-- The value of a hexadecimal digit; letters of either case stand for ten to fifteen. -/
def hexDigit? (c : Char) : Option Nat :=
  if '0' ≤ c ∧ c ≤ '9' then some (c.toNat - '0'.toNat)
  else if 'a' ≤ c ∧ c ≤ 'f' then some (c.toNat - 'a'.toNat + 10)
  else if 'A' ≤ c ∧ c ≤ 'F' then some (c.toNat - 'A'.toNat + 10)
  else none

/-- The value of a digit of a base that is at most sixteen. -/
def digit? (base : Nat) (c : Char) : Option Nat := (hexDigit? c).filter (· < base)

/-- The number that `cs` spells in the given base; there has to be a digit. -/
def number? (base : Nat) (cs : List Char) : Option Nat :=
  if cs.isEmpty then none
  else cs.foldlM (fun n c => (digit? base c).map (n * base + ·)) 0

def isDecimalDigit (c : Char) : Bool := '0' ≤ c && c ≤ '9'

example : number? 16 ['7', 'f'] = some 127 := by decide

example : number? 8 ['1', '8'] = none := by decide

end Enrollment.Text
