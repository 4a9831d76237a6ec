import Enrollment.Json.Reader

/-!
# Numbers

No member of a record is a number, so a number is read for two reasons only: to be passed
over, and to be named in a fault.

Passing over checks the grammar. Reading also finds the value. A whole number that fits its
word is an integer. Everything else is a binary floating-point magnitude, found from the
digits that fit a 64-bit word and a power of ten: the digits before the point that no longer
fit count as powers of ten, those behind the point are dropped, and the magnitude of the
digits is multiplied or divided once by the magnitude of the power.
-/

namespace Enrollment.Json

def isDigit (b : UInt8) : Bool := 0x30 ≤ b && b ≤ 0x39

def digitValue (b : UInt8) : Nat := b.toNat - 0x30

def isExponentLetter (b : UInt8) : Bool := b = Mark.letter 'e' || b = Mark.letter 'E'

/-! ## Passing over -/

/-- The sign of an exponent. -/
def skipSign : Bytes → Bytes
  | [] => []
  | b :: s => if b = Mark.plus ∨ b = Mark.minus then s else b :: s

theorem length_skipSign_le (s : Bytes) : (skipSign s).length ≤ s.length := by
  unfold skipSign
  split
  · exact Nat.le_refl _
  · split <;> simp only [List.length_cons] <;> omega

/-- One digit at least. -/
def skipDigits : Bytes → Except Fault Bytes
  | [] => .error .invalidNumber
  | b :: s => if isDigit b then .ok (s.dropWhile isDigit) else .error .invalidNumber

theorem length_skipDigits_lt {s r : Bytes} (h : skipDigits s = .ok r) :
    r.length < s.length := by
  unfold skipDigits at h
  split at h
  · cases h
  · split at h
    · cases h
      have := length_dropWhile_le isDigit
      simp only [List.length_cons]
      exact Nat.lt_succ_of_le (this _)
    · cases h

/-- The exponent, if there is one. -/
def skipExponent : Bytes → Except Fault Bytes
  | [] => .ok []
  | b :: s => if isExponentLetter b then skipDigits (skipSign s) else .ok (b :: s)

theorem length_skipExponent_le {s r : Bytes} (h : skipExponent s = .ok r) :
    r.length ≤ s.length := by
  unfold skipExponent at h
  split at h
  · cases h
    exact Nat.le_refl _
  · split at h
    · have := length_skipDigits_lt h
      have := length_skipSign_le
      simp only [List.length_cons]
      have := this ‹_›
      omega
    · cases h
      exact Nat.le_refl _

/-- The fraction and the exponent, if there are any. -/
def skipFraction : Bytes → Except Fault Bytes
  | [] => .ok []
  | b :: s =>
    if b = Mark.point then
      match skipDigits s with
      | .error e => .error e
      | .ok r => skipExponent r
    else skipExponent (b :: s)

theorem length_skipFraction_le {s r : Bytes} (h : skipFraction s = .ok r) :
    r.length ≤ s.length := by
  unfold skipFraction at h
  split at h
  · cases h
    exact Nat.le_refl _
  · split at h
    · split at h
      · cases h
      · next hd =>
        have := length_skipDigits_lt hd
        have := length_skipExponent_le h
        simp only [List.length_cons]
        omega
    · exact length_skipExponent_le h

/-- The digits of a number and what may follow them. A zero stands alone. -/
def skipUnsigned : Bytes → Except Fault Bytes
  | [] => .error .invalidNumber
  | b :: s =>
    if b = 0x30 then
      if s.head?.any isDigit then .error .invalidNumber else skipFraction s
    else if isDigit b then skipFraction (s.dropWhile isDigit)
    else .error .invalidNumber

theorem length_skipUnsigned_lt {s r : Bytes} (h : skipUnsigned s = .ok r) :
    r.length < s.length := by
  unfold skipUnsigned at h
  split at h
  · cases h
  · split at h
    · split at h
      · cases h
      · have := length_skipFraction_le h
        simp only [List.length_cons]
        omega
    · split at h
      · have := length_skipFraction_le h
        have := length_dropWhile_le isDigit
        simp only [List.length_cons]
        have := this ‹_›
        omega
      · cases h

/-! ## The value -/

/-- The largest prefix of `ds` that continues the digits of `n` within a 64-bit word: its
value, and the digits that do not fit. -/
def absorb (n : Nat) : Bytes → Nat × Bytes
  | [] => (n, [])
  | d :: ds =>
    if n * 10 + digitValue d < Nat.pow 2 64 then absorb (n * 10 + digitValue d) ds else (n, d :: ds)

/-- The largest power of ten that is a finite magnitude. -/
def maxTenPow : Nat := 308

/-- `x` divided by `10 ^ n`, in steps of at most `10 ^ 308`. -/
def scaleDown (x : Binary64) (n : Nat) : Binary64 :=
  if _h : n ≤ maxTenPow then
    ((Binary64.tenPow n).bind x.div).getD .zero
  else if x.mantissa = 0 then x
  else scaleDown (((Binary64.tenPow maxTenPow).bind x.div).getD .zero) (n - maxTenPow)
termination_by n
decreasing_by
  simp only [maxTenPow] at *
  omega

/-- The magnitude of `digits * 10 ^ exponent`, unless it is out of range. -/
def magnitude (digits : Nat) (exponent : Int) : Option Binary64 := do
  let x ← Binary64.ofNat digits
  if exponent < 0 then some (scaleDown x exponent.natAbs)
  else if exponent ≤ maxTenPow then (Binary64.tenPow exponent.natAbs).bind x.mul
  else if digits = 0 then some x
  else none

/-- The largest exponent that is computed with; beyond it only the sign counts. -/
def maxExponent : Nat := Nat.pow 2 31 - 1

/-- A floating-point value from its digits, a power of ten, and an exponent that is written
out: its sign and its digits. -/
def floating (negative : Bool) (digits : Nat) (power : Int) (negativeExponent : Bool)
    (exponent : Nat) : Except Fault Found :=
  if maxExponent < exponent then
    if digits ≠ 0 ∧ negativeExponent = false then .error .numberOutOfRange
    else .ok (.floating negative .zero)
  else
    let total := if negativeExponent then power - exponent else power + exponent
    match magnitude digits total with
    | some x => .ok (.floating negative x)
    | none => .error .numberOutOfRange

/-- A value without an exponent of its own. -/
def withoutExponent (negative : Bool) (digits : Nat) (power : Int) : Except Fault Found :=
  floating negative digits power false 0

/-- The digits of an exponent whose letter has been read, and the value. -/
def readExponent (negative : Bool) (digits : Nat) (power : Int) (s : Bytes) :
    Except Fault (Found × Bytes) :=
  let negativeExponent := s.head? = some Mark.minus
  match skipSign s with
  | [] => .error .endInValue
  | d :: r =>
    if isDigit d then
      let exponent := (d :: r.takeWhile isDigit).foldl (fun n d => n * 10 + digitValue d) 0
      (floating negative digits power negativeExponent exponent).map (·, r.dropWhile isDigit)
    else .error .invalidNumber

/-- The digits behind the point, and the value. -/
def readFraction (negative : Bool) (digits : Nat) (power : Int) (s : Bytes) :
    Except Fault (Found × Bytes) :=
  match s with
  | [] => .error .endInValue
  | d :: _ =>
    if isDigit d then
      let places := s.takeWhile isDigit
      let (digits, dropped) := absorb digits places
      let power := power - (places.length - dropped.length : Nat)
      match s.dropWhile isDigit with
      | [] => (withoutExponent negative digits power).map (·, [])
      | b :: r =>
        if isExponentLetter b then readExponent negative digits power r
        else (withoutExponent negative digits power).map (·, b :: r)
    else .error .invalidNumber

/-- A whole number; it is an integer if it fits a 64-bit word, signed if it is negative. A
negative zero is not an integer. -/
def whole (negative : Bool) (digits : Nat) : Except Fault Found :=
  if negative then
    if 0 < digits ∧ digits ≤ Nat.pow 2 63 then .ok (.integer (-digits))
    else withoutExponent true digits 0
  else .ok (.integer digits)

/-- What follows the digits before the point. -/
def readTail (negative : Bool) (leading s : Bytes) : Except Fault (Found × Bytes) :=
  let (digits, extra) := absorb 0 leading
  let value :=
    if extra.isEmpty then whole negative digits else withoutExponent negative digits extra.length
  match s with
  | [] => value.map (·, [])
  | b :: r =>
    if b = Mark.point then readFraction negative digits extra.length r
    else if isExponentLetter b then readExponent negative digits extra.length r
    else value.map (·, b :: r)

/-- A number whose sign has been read. -/
def readUnsigned (negative : Bool) : Bytes → Except Fault (Found × Bytes)
  | [] => .error .endInValue
  | d :: s =>
    if d = 0x30 then
      if s.head?.any isDigit then .error .invalidNumber else readTail negative [d] s
    else if isDigit d then
      readTail negative (d :: s.takeWhile isDigit) (s.dropWhile isDigit)
    else .error .invalidNumber

end Enrollment.Json
