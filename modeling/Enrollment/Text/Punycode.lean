import Enrollment.Text.Split

/-!
# Punycode

A text is spelled in ASCII as its ASCII characters in their order, a hyphen, and one number
for each other character. The characters are put in by rising code point, from the front of
the text; the number says how many places are passed over since the last one, where a place
counts once for each code point that could stand in it.

Numbers have base 36, the lowest digit first. A digit below a threshold ends its number; the
threshold of each digit follows the size of the numbers so far.
-/

namespace Enrollment.Text.Punycode

/-- Letters of either case are the digits from zero on, and 0 to 9 those from 26 on. -/
def digit? (c : Char) : Option Nat :=
  if 'a' ≤ c ∧ c ≤ 'z' then some (c.toNat - 'a'.toNat)
  else if 'A' ≤ c ∧ c ≤ 'Z' then some (c.toNat - 'A'.toNat)
  else if '0' ≤ c ∧ c ≤ '9' then some (c.toNat - '0'.toNat + 26)
  else none

def base : Nat := 36

def lowestThreshold : Nat := 1

def highestThreshold : Nat := 26

/-- The threshold of the digit at the place `k`, which counts upward in steps of the base. -/
def threshold (bias k : Nat) : Nat := max lowestThreshold (min highestThreshold (k - bias))

/-- The steps of the base that bring `delta` down to a size for which a bias is known. -/
def settleBias (delta k : Nat) : Nat :=
  if h : (base - lowestThreshold) * highestThreshold / 2 < delta then
    settleBias (delta / (base - lowestThreshold)) (k + base)
  else k + base * delta / (delta + 38)
termination_by delta
decreasing_by exact Nat.div_lt_self (by omega) (by decide)

/-- The bias after a number `delta`, when the text has `length` characters. The first number
counts less, for it says how far away the whole script is. -/
def adapt (delta length : Nat) (first : Bool) : Nat :=
  let delta := if first then delta / 700 else delta / 2
  settleBias (delta + delta / length) 0

/-- Read one number. `weight` is what the next digit counts, at the place `k`. -/
def readNumber (bias : Nat) : (k weight number : Nat) → List Char → Option (Nat × List Char)
  | _, _, _, [] => none
  | k, weight, number, c :: cs => do
    let digit ← digit? c
    let number := number + digit * weight
    if digit < threshold bias k then some (number, cs)
    else readNumber bias (k + base) (weight * (base - threshold bias k)) number cs

theorem length_readNumber_lt {bias k weight number n : Nat} {s r : List Char}
    (h : readNumber bias k weight number s = some (n, r)) : r.length < s.length := by
  induction s generalizing k weight number with
  | nil => simp [readNumber] at h
  | cons c cs ih =>
    rw [readNumber] at h
    cases hd : digit? c with
    | none => simp [hd] at h
    | some d =>
      simp only [hd, Option.bind_eq_bind, Option.bind_some] at h
      split at h
      · simp only [Option.some.injEq, Prod.mk.injEq] at h
        simp [← h.2]
      · exact Nat.lt_succ_of_lt (ih h)

/-- The character with this code point. -/
def char? (n : Nat) : Option Char :=
  if n.isValidChar then some (Char.ofNat n) else none

/-- Put the characters that `cs` spells into `text`. The last one that was put in had the code
point `point`, and `place` is the place behind it. -/
def insertAll (bias point place : Nat) (text : List Char) (cs : List Char) :
    Option (List Char) :=
  if cs.isEmpty then some text
  else
    match _h : readNumber bias base 1 0 cs with
    | none => none
    | some (delta, rest) => do
      let length := text.length + 1
      let point := point + (place + delta) / length
      let spot := (place + delta) % length
      let c ← char? point
      insertAll (adapt delta length (place = 0)) point (spot + 1)
        (text.take spot ++ c :: text.drop spot) rest
termination_by cs.length
decreasing_by exact length_readNumber_lt _h

def firstPoint : Nat := 0x80

def firstBias : Nat := 72

/-- The text that `cs` spells. A hyphen with nothing in front of it divides nothing. -/
def decode? (cs : List Char) : Option (List Char) :=
  match cutLast '-' cs with
  | some (c :: front, back) => insertAll firstBias firstPoint 0 (c :: front) back
  | _ => insertAll firstBias firstPoint 0 [] cs

example : decode? "bcher-kva".toList = some "bücher".toList := by decide +kernel

example : decode? "ihqwcrb4cv8a8dqg056pqjye".toList = some "他们为什么不说中文".toList := by
  decide +kernel

example : decode? "0".toList = none := by decide +kernel

end Enrollment.Text.Punycode
