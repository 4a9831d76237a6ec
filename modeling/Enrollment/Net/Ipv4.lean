import Enrollment.Text.Digits
import Enrollment.Text.Split

/-!
# Addresses of four octets

The strict spelling of an address is four decimal octets without leading zeros. A host name
may also spell an address in the ways that programs have long accepted: octets in octal or
hexadecimal, and fewer than four numbers, of which the last fills all octets that are left.
-/

namespace Enrollment

open Text

/-- An address of four octets. -/
structure Ipv4 where
  octets : UInt8 × UInt8 × UInt8 × UInt8
  deriving DecidableEq, Repr

namespace Ipv4

/-- The address whose octets are the digits of `n` to the base 256. -/
def ofNat (n : Nat) : Ipv4 :=
  ⟨(n / Nat.pow 2 24).toUInt8, (n / Nat.pow 2 16).toUInt8, (n / Nat.pow 2 8).toUInt8, n.toUInt8⟩

def toList (a : Ipv4) : List UInt8 :=
  [a.octets.1, a.octets.2.1, a.octets.2.2.1, a.octets.2.2.2]

/-- The octets in decimal with points between them. -/
def text (a : Ipv4) : String :=
  ".".intercalate (a.toList.map fun o => toString o.toNat)

/-- A decimal octet without a leading zero. -/
def octet? (cs : List Char) : Option UInt8 := do
  let n ← number? 10 cs
  guard (n < 256 ∧ (cs.length = 1 ∨ cs.head? ≠ some '0'))
  pure n.toUInt8

/-- The address that is spelled strictly. -/
def parse? (cs : List Char) : Option Ipv4 := do
  let [a, b, c, d] ← (splitAt '.' cs).mapM octet? | none
  pure ⟨a, b, c, d⟩

/-! ## The lenient spelling -/

/-- A number in hexadecimal behind `0x`, in octal behind another zero, and in decimal
otherwise. A bare mark stands for zero. -/
def lenientNumber? (cs : List Char) : Option Nat :=
  match cs with
  | [] => none
  | ['0'] => some 0
  | '0' :: x :: digits =>
    if x = 'x' ∨ x = 'X' then
      if digits.isEmpty then some 0 else number? 16 digits
    else number? 8 (x :: digits)
  | _ => number? 10 cs

/-- `pieces` without a last one that is empty, unless it is the only one. -/
def dropEmptyLast (pieces : List (List Char)) : List (List Char) :=
  if 1 < pieces.length ∧ pieces.getLast? = some [] then pieces.dropLast else pieces

/-- Whether a host name is to be read as an address, because its last label is a number. -/
def endsInNumber (cs : List Char) : Bool :=
  match (dropEmptyLast (splitAt '.' cs)).getLast? with
  | none | some [] => false
  | some label => label.all isDecimalDigit || (lenientNumber? label).isSome

/-- The address that the numbers spell: each but the last is one octet. -/
def ofNumbers? (numbers : List Nat) : Option Ipv4 := do
  let last ← numbers.getLast?
  let leading := numbers.dropLast
  guard (leading.length < 4 ∧ leading.all (· < 256) ∧ last < Nat.pow 256 (4 - leading.length))
  pure (ofNat (leading.zipIdx.foldl (fun n (x, i) => n + x * Nat.pow 256 (3 - i)) last))

/-- The address that is spelled leniently. -/
def parseLenient? (cs : List Char) : Option Ipv4 := do
  ofNumbers? (← (dropEmptyLast (splitAt '.' cs)).mapM lenientNumber?)

example : (parseLenient? "127.1".toList).map text = some "127.0.0.1" := by decide +kernel

example : (parseLenient? "0x7f.0.0.010".toList).map text = some "127.0.0.8" := by decide +kernel

example : parse? "01.2.3.4".toList = none := by decide +kernel

end Ipv4

end Enrollment
