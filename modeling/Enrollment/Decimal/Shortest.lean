import Enrollment.Decimal.Binary64

/-!
# The shortest decimal that reads back

A magnitude is written with the fewest significant digits that still round to it, and
among those with the digits nearest to it, the even one on a tie. A decimal with a given number of digits that
rounds to the magnitude exists only if one of the two neighbours of the magnitude on the
decimal grid does, so the numbers of digits are tried in turn and two candidates are
looked at for each. All comparisons are between natural numbers.

`Layout` holds the choices that a written form leaves open: up to which exponents it is
positional, and how many digits an exponent has at least.
-/

namespace Enrollment.Decimal

/-- Significant digits, and the power of ten that the first one stands for. -/
structure Scientific where
  digits : List Char
  exponent : Int
  deriving DecidableEq, Repr

/-- The rounding interval of a magnitude in quarter units: the points from `lower` to
`upper` are nearest to it, the ends themselves only if `closed`. -/
structure Interval where
  lower : Nat
  upper : Nat
  closed : Bool

/-- The gap below a power of two is half as wide as the one above it. -/
def Interval.of (x : Binary64) : Interval where
  lower := (4 * x.mantissa - if x.mantissa = Nat.pow 2 52 ∧ 0 < x.shift then 1 else 2) * Nat.pow 2 x.shift
  upper := (4 * x.mantissa + 2) * Nat.pow 2 x.shift
  closed := x.mantissa % 2 = 0

/-- Whether `n / d` quarter units lie in the interval. -/
def Interval.holds (i : Interval) (n d : Nat) : Bool :=
  if i.closed then i.lower * d ≤ n && n ≤ i.upper * d else i.lower * d < n && n < i.upper * d

/-- The least `k` from `k₀` on with `den ≤ num * 10 ^ k`, sought in `fuel` steps. -/
def leadingZeros (num den : Nat) : Nat → Nat → Nat
  | 0, k => k
  | fuel + 1, k => if den ≤ num * Nat.pow 10 k then k else leadingZeros num den fuel (k + 1)

/-- The exponent of the first significant digit of `num / den`, which is not zero. The
smallest magnitude starts at the 324th place. -/
def firstPlace (num den : Nat) : Int :=
  if den ≤ num then ((Nat.toDigits 10 (num / den)).length : Int) - 1
  else - (leadingZeros num den 324 1 : Int)

/-- The decimal of `count` digits that rounds to `x` and is nearest to it, if there is one. -/
def candidate? (x : Binary64) (count : Nat) : Option Nat :=
  let num := x.units
  let den := Binary64.one
  let place := firstPlace num den - (count - 1 : Nat)
  let (up, down) := if place < 0 then (Nat.pow 10 place.natAbs, 1) else (1, Nat.pow 10 place.natAbs)
  let interval := Interval.of x
  let reads (c : Nat) : Bool := interval.holds (4 * c * down * den) up
  let low := num * up / (den * down)
  match reads low, reads (low + 1) with
  | true, true => some (Binary64.divHalfEven (num * up) (den * down))
  | true, false => some low
  | false, true => some (low + 1)
  | false, false => none

/-- Seventeen digits are enough for every magnitude. -/
def maxDigits : Nat := 17

/-- The fewest digits that round to `x`. -/
def shortest (x : Binary64) : Scientific :=
  if x.mantissa = 0 then ⟨['0'], 0⟩
  else
    match (List.range maxDigits).findSome? fun k => (candidate? x (k + 1)).map fun c => (c, k) with
    | none => ⟨['0'], 0⟩
    | some (c, k) =>
      let digits := Nat.toDigits 10 c
      let carry := digits.length - (k + 1)
      let trimmed := (digits.reverse.dropWhile (· = '0')).reverse
      ⟨trimmed, firstPlace x.units Binary64.one + carry⟩

/-- Exponents from `lowest` to `highest` are written positionally; an exponent that is
written out has a sign of either kind. -/
structure Layout where
  lowest : Int
  highest : Int

/-- Five zeros after the point and sixteen digits before it are still written out. -/
def Layout.standard : Layout := ⟨-5, 15⟩

/-- `s` as text: with a point and a digit on each side of it, or with an exponent. -/
def Layout.write (n : Layout) (s : Scientific) : List Char :=
  let count := s.digits.length
  let place := s.exponent.natAbs
  if n.lowest ≤ s.exponent ∧ s.exponent < 0 then
    ['0', '.'] ++ List.replicate (place - 1) '0' ++ s.digits
  else if 0 ≤ s.exponent ∧ s.exponent ≤ n.highest then
    if count ≤ place + 1 then
      s.digits ++ List.replicate (place + 1 - count) '0' ++ ['.', '0']
    else s.digits.take (place + 1) ++ '.' :: s.digits.drop (place + 1)
  else
    s.digits.take 1 ++ (if count = 1 then [] else '.' :: s.digits.drop 1)
      ++ ['e', if s.exponent < 0 then '-' else '+']
      ++ Nat.toDigits 10 place

/-- A magnitude with its sign. -/
def Layout.render (n : Layout) (negative : Bool) (x : Binary64) : String :=
  String.ofList ((if negative then ['-'] else []) ++ n.write (shortest x))

/-- The smallest magnitude is nearer to five units of its place than to four, and one
digit is enough. -/
example : Layout.standard.render false ⟨1, 0⟩ = "5e-324" := by decide +kernel

example : (Binary64.round Binary64.one (10 ^ 7)).map (Layout.standard.render false) = some "1e-7" := by
  decide +kernel

example : (Binary64.ofNat (10 ^ 20 - 1)).map (Layout.standard.render false) = some "1e+20" := by
  decide +kernel

end Enrollment.Decimal
