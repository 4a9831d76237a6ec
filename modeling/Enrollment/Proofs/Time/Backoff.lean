import Enrollment.Time.Retry
import Mathlib.Algebra.Ring.Nat

/-!
# Backoff in machine words

A pause is doubled with every attempt and kept within the range of a duration. Here the same is
computed as a machine does it: seconds in a word of 64 bits, nanoseconds in one of 32, the factor
as a bit that is shifted, and a product whose nanoseconds carry into its seconds. The two agree,
and on the way no result is too long for its word but that of the seconds, which is watched.
-/

namespace Enrollment

namespace Duration

/-- A span of time in machine words. -/
structure Words where
  secs : UInt64
  nanos : UInt32
  deriving DecidableEq, Repr

def words (d : Duration) : Words := ⟨UInt64.ofNat d.secs, UInt32.ofNat d.nanos⟩

namespace Words

/-- The product of two words, as long as it is a word. -/
def mul? (a b : UInt64) : Option UInt64 :=
  if a.toNat * b.toNat < UInt64.size then some (a * b) else none

/-- The sum of two words, as long as it is a word. -/
def add? (a b : UInt64) : Option UInt64 :=
  if a.toNat + b.toNat < UInt64.size then some (a + b) else none

/-- The product of the nanoseconds, which may be longer than a second. -/
def nanosTimes (w : Words) (k : UInt32) : UInt64 := w.nanos.toUInt64 * k.toUInt64

/-- `k` times as long, unless the seconds leave their word. -/
def times? (w : Words) (k : UInt32) : Option Words :=
  let product := w.nanosTimes k
  (mul? w.secs k.toUInt64).bind fun secs =>
    (add? secs (product / 1000000000)).map fun secs =>
      ⟨secs, (product % 1000000000).toUInt32⟩

/-! ## What the words hold -/

variable {a b : UInt64}

theorem exists_mul? (short : a.toNat * b.toNat < UInt64.size) :
    ∃ c, mul? a b = some c ∧ c.toNat = a.toNat * b.toNat := by
  refine ⟨a * b, if_pos short, ?_⟩
  rw [UInt64.toNat_mul, Nat.mod_eq_of_lt short]

theorem exists_add? (short : a.toNat + b.toNat < UInt64.size) :
    ∃ c, add? a b = some c ∧ c.toNat = a.toNat + b.toNat := by
  refine ⟨a + b, if_pos short, ?_⟩
  rw [UInt64.toNat_add, Nat.mod_eq_of_lt short]

theorem mul?_eq_none (long : ¬ a.toNat * b.toNat < UInt64.size) : mul? a b = none := if_neg long

theorem add?_eq_none (long : ¬ a.toNat + b.toNat < UInt64.size) : add? a b = none := if_neg long

end Words

variable (d : Duration) (k : UInt32)

theorem toNat_secs_words : d.words.secs.toNat = d.secs := UInt64.toNat_ofNat_of_lt' d.secs_lt

theorem toNat_nanos_words : d.words.nanos.toNat = d.nanos :=
  UInt32.toNat_ofNat_of_lt' (Nat.lt_trans d.nanos_lt (by decide))

/-- Words are known by the numbers that they hold. -/
theorem eq_words {w : Words} (secs : w.secs.toNat = d.secs) (nanos : w.nanos.toNat = d.nanos) :
    w = d.words := by
  cases w
  rw [words, ← secs, ← nanos, UInt64.ofNat_toNat, UInt32.ofNat_toNat]

/-- The product of the nanoseconds is a word, whatever the factor. -/
theorem toNat_nanosTimes : (d.words.nanosTimes k).toNat = d.nanos * k.toNat := by
  have short : d.nanos * k.toNat < 2 ^ 64 := by
    calc d.nanos * k.toNat < 10 ^ 9 * 2 ^ 32 := Nat.mul_lt_mul'' d.nanos_lt (UInt32.toNat_lt k)
      _ < 2 ^ 64 := by decide
  rw [Words.nanosTimes, UInt64.toNat_mul, UInt32.toNat_toUInt64, UInt32.toNat_toUInt64,
    toNat_nanos_words, Nat.mod_eq_of_lt short]

theorem toNat_carry : (d.words.nanosTimes k / 1000000000).toNat = d.nanos * k.toNat / 10 ^ 9 := by
  rw [UInt64.toNat_div, toNat_nanosTimes]
  rfl

theorem toNat_rest :
    (d.words.nanosTimes k % 1000000000).toUInt32.toNat = d.nanos * k.toNat % 10 ^ 9 := by
  have short : d.nanos * k.toNat % 10 ^ 9 < 2 ^ 32 := by omega
  have rest : (d.words.nanosTimes k % 1000000000).toNat = d.nanos * k.toNat % 10 ^ 9 := by
    rw [UInt64.toNat_mod, toNat_nanosTimes]
    rfl
  rw [UInt64.toNat_toUInt32, rest, Nat.mod_eq_of_lt short]

/-- The product in words is the product, or it is missing where that is out of range. -/
theorem times?_words : (d.words.times? k).getD longest.words = (d.scale k.toNat).words := by
  have secs := d.toNat_secs_words
  have factor : k.toUInt64.toNat = k.toNat := UInt32.toNat_toUInt64 k
  have carry := d.toNat_carry k
  by_cases short : d.words.secs.toNat * k.toUInt64.toNat < UInt64.size
  · obtain ⟨product, multiplied, held⟩ := Words.exists_mul? short
    by_cases fits : product.toNat + (d.words.nanosTimes k / 1000000000).toNat < UInt64.size
    · obtain ⟨sum, added, total⟩ := Words.exists_add? fits
      rw [held, secs, factor, carry] at fits total
      have scaled : d.scale k.toNat = ⟨_, _, fits, Nat.mod_lt _ (by decide)⟩ := dif_pos fits
      rw [Words.times?, multiplied, Option.bind_some, added, Option.map_some, Option.getD_some,
        scaled]
      exact eq_words _ total (d.toNat_rest k)
    · have missing := Words.add?_eq_none fits
      rw [held, secs, factor, carry] at fits
      have scaled : d.scale k.toNat = longest := dif_neg fits
      rw [Words.times?, multiplied, Option.bind_some, missing, scaled]
      rfl
  · have missing := Words.mul?_eq_none short
    rw [secs, factor] at short
    have beyond : ¬ d.secs * k.toNat + d.nanos * k.toNat / 10 ^ 9 < 2 ^ 64 :=
      fun fits => short (Nat.lt_of_le_of_lt (Nat.le_add_right _ _) fits)
    have scaled : d.scale k.toNat = longest := dif_neg beyond
    rw [Words.times?, missing, scaled]
    rfl

end Duration

namespace Backoff

/-- The factor of an attempt: one, shifted. -/
def factor (attempt : UInt32) : UInt32 := 1 <<< min attempt 31

theorem toNat_min (a b : UInt32) : (min a b).toNat = min a.toNat b.toNat := by
  show (if a ≤ b then a else b).toNat = _
  split
  · next le => exact (Nat.min_eq_left (UInt32.le_iff_toNat_le.mp le)).symm
  · next lt =>
    rw [UInt32.le_iff_toNat_le, Nat.not_le] at lt
    exact (Nat.min_eq_right (Nat.le_of_lt lt)).symm

theorem toNat_doublings (attempt : UInt32) :
    (min attempt 31).toNat = min attempt.toNat maxDoublings := toNat_min attempt 31

/-- No bit is shifted out. -/
theorem toNat_factor (attempt : UInt32) :
    (factor attempt).toNat = 2 ^ min attempt.toNat maxDoublings := by
  have within : min attempt.toNat maxDoublings < 32 := by
    rw [maxDoublings]
    omega
  have short : 2 ^ min attempt.toNat maxDoublings < 2 ^ 32 :=
    Nat.pow_lt_pow_right (by decide) within
  rw [factor, UInt32.toNat_shiftLeft, toNat_doublings, Nat.mod_eq_of_lt within,
    Nat.shiftLeft_eq, UInt32.toNat_one, Nat.one_mul, Nat.mod_eq_of_lt short]

/-- The pause of an exponential backoff in machine words. -/
def pauseInWords (unit : Duration.Words) (attempt : UInt32) : Duration.Words :=
  (unit.times? (factor attempt)).getD Duration.longest.words

theorem pauseInWords_eq (unit : Duration) (attempt : UInt32) :
    pauseInWords unit.words attempt = ((exponential unit).delay attempt.toNat).words := by
  rw [pauseInWords, Duration.times?_words, toNat_factor]
  rfl

/-! ## Numbers -/

variable (unit : Duration) (n : Nat)

theorem toNanos_delay : ((exponential unit).delay n).toNanos =
    min (unit.toNanos * 2 ^ min n maxDoublings) Duration.longest.toNanos := by
  have apart (k : Nat) :
      unit.secs * k * nanosPerSecond + unit.nanos * k = unit.toNanos * k := by
    rw [Duration.toNanos, Nat.add_mul, Nat.mul_right_comm]
  rw [delay_exponential, Duration.scale, Duration.toNanos_saturating, apart]
  rfl

theorem toNanos_delay_le_of_le {m n : Nat} (le : m ≤ n) :
    ((exponential unit).delay m).toNanos ≤ ((exponential unit).delay n).toNanos := by
  rw [toNanos_delay, toNanos_delay]
  have factors : 2 ^ min m maxDoublings ≤ 2 ^ min n maxDoublings :=
    Nat.pow_le_pow_right (by decide) (by omega)
  have products := Nat.mul_le_mul_left unit.toNanos factors
  omega

theorem toNanos_delay_le_of_unit_le {unit longer : Duration} (le : unit.toNanos ≤ longer.toNanos) :
    ((exponential unit).delay n).toNanos ≤ ((exponential longer).delay n).toNanos := by
  rw [toNanos_delay, toNanos_delay]
  have products := Nat.mul_le_mul_right (2 ^ min n maxDoublings) le
  omega

theorem toNanos_delay_succ (early : n < maxDoublings)
    (unsaturated : (exponential unit).delay (n + 1) ≠ Duration.longest) :
    ((exponential unit).delay (n + 1)).toNanos = 2 * ((exponential unit).delay n).toNanos := by
  rw [Ne, ← Duration.toNanos_inj] at unsaturated
  rw [toNanos_delay] at unsaturated ⊢
  rw [toNanos_delay]
  have now : min n maxDoublings = n := by omega
  have next : min (n + 1) maxDoublings = n + 1 := by omega
  rw [next] at unsaturated ⊢
  rw [now]
  have doubled : unit.toNanos * 2 ^ (n + 1) = 2 * (unit.toNanos * 2 ^ n) := by
    rw [Nat.pow_succ, ← Nat.mul_assoc, Nat.mul_comm]
  omega

/-- The pause behind an attempt is the unit, doubled as often as there have been attempts but no
more than 31 times, or the longest duration where that is out of range. Its nanoseconds stay below
a second. In machine words it is the same: the bit that is shifted stays in its word, and the
product of the nanoseconds fits into one. A later attempt or a longer unit makes no pause shorter,
and each of the first 31 doublings is exact unless it leads to the longest one. -/
theorem exponential_delay_is_exact (unit : Duration) (attempt : UInt32) :
    let delay (unit : Duration) (attempt : UInt32) := (exponential unit).delay attempt.toNat
    ((delay unit attempt).toNanos =
        min (unit.toNanos * 2 ^ min attempt.toNat 31) 18446744073709551615999999999 ∧
      (delay unit attempt).nanos < 1000000000) ∧
    ((min attempt 31).toNat < 32 ∧ (factor attempt).toNat = 2 ^ min attempt.toNat 31 ∧
      (unit.words.nanosTimes (factor attempt)).toNat = unit.nanos * 2 ^ min attempt.toNat 31 ∧
      pauseInWords unit.words attempt = (delay unit attempt).words) ∧
    (∀ later, attempt ≤ later → (delay unit attempt).toNanos ≤ (delay unit later).toNanos) ∧
    (∀ longer, unit.toNanos ≤ longer.toNanos →
      (delay unit attempt).toNanos ≤ (delay longer attempt).toNanos) ∧
    (attempt < 31 → delay unit (attempt + 1) ≠ Duration.longest →
      (delay unit (attempt + 1)).toNanos = 2 * (delay unit attempt).toNanos) := by
  intro delay
  refine ⟨⟨toNanos_delay unit _, (delay unit attempt).nanos_lt⟩,
    ⟨?_, toNat_factor attempt, ?_, pauseInWords_eq unit attempt⟩, ?_, ?_, ?_⟩
  · rw [toNat_doublings, maxDoublings]
    omega
  · rw [Duration.toNat_nanosTimes, toNat_factor]
    rfl
  · intro later le
    exact toNanos_delay_le_of_le unit (UInt32.le_iff_toNat_le.mp le)
  · intro longer le
    exact toNanos_delay_le_of_unit_le _ le
  · intro early unsaturated
    have before : attempt.toNat < maxDoublings := UInt32.lt_iff_toNat_lt.mp early
    have next : (attempt + 1).toNat = attempt.toNat + 1 := by
      rw [maxDoublings] at before
      rw [UInt32.toNat_add]
      exact Nat.mod_eq_of_lt (show attempt.toNat + 1 < 2 ^ 32 by omega)
    unfold delay at unsaturated ⊢
    rw [next] at unsaturated ⊢
    exact toNanos_delay_succ unit _ before unsaturated

end Backoff

end Enrollment
