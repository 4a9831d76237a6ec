/-!
# Spans of time

A duration is a number of whole seconds below `2 ^ 64` and a number of nanoseconds
below one second. Both bounds are part of the type, so no operation can produce a
duration that is out of range: scaling saturates at the longest one.

`Duration.toNanos` is the view that the arithmetic is stated through. Two printed
forms are supplied: `Duration.decimal`, which always has nine places, and
`Duration.brief`, which picks the largest unit of which a whole number has passed.
-/

namespace Enrollment

-- Definitions write powers as `Nat.pow`, so that they do not depend on which algebra of powers
-- is imported where they are read.

/-- The number of nanoseconds in one second. -/
abbrev nanosPerSecond : Nat := Nat.pow 10 9

/-- A span of time: whole seconds and the nanoseconds of a started second. -/
structure Duration where
  secs : Nat
  nanos : Nat
  secs_lt : secs < Nat.pow 2 64
  nanos_lt : nanos < nanosPerSecond
  deriving DecidableEq, Repr

namespace Duration

/-- The whole span in nanoseconds. -/
def toNanos (d : Duration) : Nat := d.secs * nanosPerSecond + d.nanos

/-- The longest span there is. -/
def longest : Duration := ⟨Nat.pow 2 64 - 1, nanosPerSecond - 1, by decide, by decide⟩

/-- Seconds and nanoseconds, the nanoseconds carrying into the seconds; `longest`
when the seconds leave their range. -/
def saturating (secs nanos : Nat) : Duration :=
  if h : secs + nanos / nanosPerSecond < Nat.pow 2 64 then
    ⟨secs + nanos / nanosPerSecond, nanos % nanosPerSecond, h, Nat.mod_lt _ (by decide)⟩
  else longest

def ofNanos (n : Nat) : Duration := saturating 0 n

def ofSeconds (n : Nat) : Duration := saturating n 0

def ofMillis (n : Nat) : Duration := ofNanos (n * Nat.pow 10 6)

def zero : Duration := ofSeconds 0

instance : Inhabited Duration := ⟨zero⟩

/-- `k` times as long, or `longest` where that is out of range. The seconds and the
nanoseconds are multiplied apart and the carry is added to the seconds. -/
def scale (d : Duration) (k : Nat) : Duration := saturating (d.secs * k) (d.nanos * k)

theorem toNanos_saturating (secs nanos : Nat) :
    (saturating secs nanos).toNanos
      = min (secs * nanosPerSecond + nanos) longest.toNanos := by
  unfold saturating
  split
  · next h =>
    have fits : secs + nanos / 10 ^ 9 < 2 ^ 64 := h
    simp only [toNanos, longest, nanosPerSecond, Nat.pow_eq]
    omega
  · next h =>
    have beyond : ¬ secs + nanos / 10 ^ 9 < 2 ^ 64 := h
    simp only [toNanos, longest, nanosPerSecond, Nat.pow_eq]
    omega

theorem toNanos_le (d : Duration) : d.toNanos ≤ longest.toNanos := by
  have hs := d.secs_lt
  have hn := d.nanos_lt
  simp only [toNanos, longest, nanosPerSecond, Nat.pow_eq] at *
  omega

/-- A duration is known by its nanoseconds. -/
theorem toNanos_inj {a b : Duration} : a.toNanos = b.toNanos ↔ a = b := by
  constructor
  · intro h
    have ha := a.nanos_lt
    have hb := b.nanos_lt
    cases a
    cases b
    simp only [toNanos, nanosPerSecond, Nat.pow_eq] at *
    simp only [mk.injEq]
    omega
  · rintro rfl
    rfl

@[simp] theorem ofNanos_toNanos (d : Duration) : ofNanos d.toNanos = d := by
  rw [← toNanos_inj, ofNanos, toNanos_saturating]
  have := d.toNanos_le
  omega

/-- `n` in decimal, with zeros in front up to `width` digits. -/
def zeroPadded (width n : Nat) : List Char :=
  let digits := Nat.toDigits 10 n
  List.replicate (width - digits.length) '0' ++ digits

/-- Seconds, a point, and nine places. -/
def decimal (d : Duration) : String :=
  String.ofList (Nat.toDigits 10 d.secs ++ '.' :: zeroPadded 9 d.nanos)

/-- A whole number of some unit and a fraction of `width` digits, whose closing
zeros are left out, with the point when nothing of it stays. -/
def withFraction (whole width fraction : Nat) : List Char :=
  let places := ((zeroPadded width fraction).reverse.dropWhile (· = '0')).reverse
  Nat.toDigits 10 whole ++ if places.isEmpty then [] else '.' :: places

/-- The span in seconds, milliseconds, microseconds or nanoseconds, whichever is the
largest unit of which a whole number has passed. -/
def brief (d : Duration) : String :=
  String.ofList <|
    if 0 < d.secs then withFraction d.secs 9 d.nanos ++ ['s']
    else if Nat.pow 10 6 ≤ d.nanos then
      withFraction (d.nanos / Nat.pow 10 6) 6 (d.nanos % Nat.pow 10 6) ++ ['m', 's']
    else if Nat.pow 10 3 ≤ d.nanos then
      withFraction (d.nanos / Nat.pow 10 3) 3 (d.nanos % Nat.pow 10 3) ++ ['µ', 's']
    else Nat.toDigits 10 d.nanos ++ ['n', 's']

end Duration

end Enrollment
