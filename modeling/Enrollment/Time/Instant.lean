import Enrollment.Time.Duration

/-!
# Readings of a clock

An instant is what a clock shows: the time since it was started. A clock counts
seconds in a signed 64-bit word, so a reading that a program works out ahead of time
may not exist; `Instant.add?` yields such a reading only when the clock can show it.
The passing of time itself, `Instant.advance`, is not checked.
-/

namespace Enrollment

/-- What the clock shows, in nanoseconds since it was started. -/
structure Instant where
  sinceStart : Nat
  deriving DecidableEq, Repr

namespace Instant

def start : Instant := ⟨0⟩

instance : Inhabited Instant := ⟨start⟩

/-- The readings of a clock with a signed 64-bit count of seconds lie below this. -/
def range : Nat := Nat.pow 2 63 * nanosPerSecond

/-- What the clock shows once `d` has passed. -/
def advance (t : Instant) (d : Duration) : Instant := ⟨t.sinceStart + d.toNanos⟩

/-- The reading `d` from now, if the clock can show it. -/
def add? (t : Instant) (d : Duration) : Option Instant :=
  if (t.advance d).sinceStart < range then some (t.advance d) else none

/-- The time from `earlier` to `t`; nothing when `earlier` is the later one. -/
def since (t earlier : Instant) : Duration :=
  Duration.ofNanos (t.sinceStart - earlier.sinceStart)

instance : LT Instant := ⟨fun a b => a.sinceStart < b.sinceStart⟩

instance (a b : Instant) : Decidable (a < b) :=
  inferInstanceAs (Decidable (a.sinceStart < b.sinceStart))

@[simp] theorem sinceStart_advance (t : Instant) (d : Duration) :
    (t.advance d).sinceStart = t.sinceStart + d.toNanos := by
  rw [advance]

theorem since_self (t : Instant) : t.since t = Duration.zero := by
  simp [since, Duration.zero, Duration.ofNanos, Duration.ofSeconds]

theorem since_advance (t : Instant) (d : Duration) : (t.advance d).since t = d := by
  rw [since, sinceStart_advance, Nat.add_sub_cancel_left, Duration.ofNanos_toNanos]

theorem add?_eq_some_iff {t u : Instant} {d : Duration} :
    t.add? d = some u ↔ u = t.advance d ∧ (t.advance d).sinceStart < range := by
  rw [add?]
  split
  · next h => simp only [Option.some.injEq, h, and_true, eq_comm]
  · next h => simp only [reduceCtorEq, h, and_false]

theorem add?_eq_none_iff {t : Instant} {d : Duration} :
    t.add? d = none ↔ range ≤ (t.advance d).sinceStart := by
  rw [add?]
  split
  · next h => simp only [reduceCtorEq, Nat.not_le.mpr h]
  · next h => simp only [Nat.not_lt.mp h]

end Instant

end Enrollment
