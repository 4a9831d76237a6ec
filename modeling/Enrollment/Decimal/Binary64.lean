/-!
# Magnitudes of binary floating point

A finite magnitude of the 64-bit binary format is `mantissa * 2 ^ shift` units, where one
unit is the smallest positive magnitude, `1 / 2 ^ 1074`. Keeping the unit fixed turns every
operation into arithmetic on natural numbers: the exact quotient is formed and rounded once,
to the nearest magnitude and to the even mantissa on a tie.
-/

namespace Enrollment

/-- A finite magnitude, in units of `1 / 2 ^ 1074`. -/
structure Binary64 where
  mantissa : Nat
  shift : Nat
  deriving DecidableEq, Repr

namespace Binary64

/-- The units that make up one. -/
def one : Nat := Nat.pow 2 1074

def zero : Binary64 := ⟨0, 0⟩

/-- The largest shift of a finite magnitude. -/
def maxShift : Nat := 2045

def units (x : Binary64) : Nat := x.mantissa * Nat.pow 2 x.shift

/-- `num / den` as a whole number: the nearest one, the even one on a tie. -/
def divHalfEven (num den : Nat) : Nat :=
  let q := num / den
  let twice := 2 * (num % den)
  if twice < den then q
  else if den < twice then q + 1
  else if q % 2 = 0 then q else q + 1

/-- The magnitude nearest to `num / den` units, or `none` beyond the finite ones. -/
def round (num den : Nat) : Option Binary64 :=
  let shift := Nat.log2 (num / den) - 52
  let mantissa := divHalfEven num (den * Nat.pow 2 shift)
  let result : Binary64 := if mantissa = Nat.pow 2 53 then ⟨Nat.pow 2 52, shift + 1⟩ else ⟨mantissa, shift⟩
  if result.shift ≤ maxShift then some result else none

def ofNat (n : Nat) : Option Binary64 := round (n * one) 1

/-- The magnitude nearest to `10 ^ n`. -/
def tenPow (n : Nat) : Option Binary64 := ofNat (Nat.pow 10 n)

def mul (x y : Binary64) : Option Binary64 := round (x.units * y.units) one

def div (x y : Binary64) : Option Binary64 := round (x.units * one) y.units

/-- Half way between two neighbours the even mantissa is taken. -/
example : ofNat (2 ^ 53 + 1) = ofNat (2 ^ 53) := by decide +kernel

example : tenPow 309 = none := by decide +kernel

end Binary64

end Enrollment
