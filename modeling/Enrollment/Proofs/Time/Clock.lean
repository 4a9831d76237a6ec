import Enrollment.Proofs.Time.Backoff
import Enrollment.Time.Instant

/-!
# Clock arithmetic in machine words

A clock counts whole seconds in a signed word of 64 bits, and keeps the nanoseconds of a started
second in one of 32. Here a duration is added to a reading as a machine does it: the seconds are
added, then the nanoseconds, which may carry one more second, and the seconds are watched. The sum
is `Instant.add?`, and words compare as the readings that they stand for.
-/

namespace Enrollment

namespace Instant

/-- A reading of a clock in machine words. -/
structure Words where
  secs : Int64
  nanos : UInt32
  deriving DecidableEq, Repr

def words (t : Instant) : Words :=
  ⟨Int64.ofNat (t.sinceStart / nanosPerSecond), UInt32.ofNat (t.sinceStart % nanosPerSecond)⟩

namespace Words

/-- The sum of a signed word and an unsigned one, as long as it is a signed word. -/
def addSecs? (a : Int64) (b : UInt64) : Option Int64 :=
  if a.toInt + b.toNat ≤ Int64.maxValue.toInt then some (a + Int64.ofNat b.toNat) else none

/-- Seconds and nanoseconds, of which there may be enough for one more second. -/
def carry? (secs : Int64) (nanos : UInt32) : Option Words :=
  if nanos < 1000000000 then some ⟨secs, nanos⟩
  else (addSecs? secs 1).map fun secs => ⟨secs, nanos - 1000000000⟩

/-- The reading `d` later, unless the seconds leave their word. -/
def add? (w : Words) (d : Duration.Words) : Option Words :=
  (addSecs? w.secs d.secs).bind fun secs => carry? secs (w.nanos + d.nanos)

instance : LT Words where
  lt v w := v.secs < w.secs ∨ v.secs = w.secs ∧ v.nanos < w.nanos

instance (v w : Words) : Decidable (v < w) :=
  inferInstanceAs (Decidable (v.secs < w.secs ∨ v.secs = w.secs ∧ v.nanos < w.nanos))

variable {a : Int64} {b : UInt64} {n : Nat}

theorem toInt_add_le_maxValue_iff (seconds : a.toInt = n) :
    a.toInt + b.toNat ≤ Int64.maxValue.toInt ↔ n + b.toNat < 2 ^ 63 := by
  rw [seconds, Int64.toInt_maxValue]
  omega

/-- The sum of seconds that are not negative, as long as it is a signed word. -/
theorem exists_addSecs? (seconds : a.toInt = n) (short : n + b.toNat < 2 ^ 63) :
    ∃ c, addSecs? a b = some c ∧ c.toInt = (n + b.toNat : Nat) := by
  have within := (toInt_add_le_maxValue_iff seconds).mpr short
  refine ⟨a + Int64.ofNat b.toNat, if_pos within, ?_⟩
  rw [← Int64.ofInt_toInt a, seconds, ← Int64.ofInt_eq_ofNat, ← Int64.ofInt_add,
    ← Int.natCast_add, Int64.ofInt_eq_ofNat]
  exact Int64.toInt_ofNat_of_lt short

theorem addSecs?_eq_none (seconds : a.toInt = n) (long : ¬ n + b.toNat < 2 ^ 63) :
    addSecs? a b = none :=
  if_neg fun within => long ((toInt_add_le_maxValue_iff seconds).mp within)

end Words

variable {t u : Instant} {d : Duration}

theorem lt_range_iff : t.sinceStart < range ↔ t.sinceStart / nanosPerSecond < 2 ^ 63 :=
  (Nat.div_lt_iff_lt_mul (by decide)).symm

theorem toInt_secs_words (shown : t.sinceStart < range) :
    t.words.secs.toInt = (t.sinceStart / nanosPerSecond : Nat) :=
  Int64.toInt_ofNat_of_lt (lt_range_iff.mp shown)

theorem toNat_nanos_words (t : Instant) : t.words.nanos.toNat = t.sinceStart % nanosPerSecond := by
  have short : t.sinceStart % nanosPerSecond < UInt32.size :=
    Nat.lt_trans (Nat.mod_lt _ (by decide)) (by decide)
  exact UInt32.toNat_ofNat_of_lt' short

theorem eq_words {w : Words} (shown : t.sinceStart < range)
    (secs : w.secs.toInt = (t.sinceStart / nanosPerSecond : Nat))
    (nanos : w.nanos.toNat = t.sinceStart % nanosPerSecond) : w = t.words := by
  have seconds : w.secs = t.words.secs :=
    Int64.toInt_inj.mp (secs.trans (toInt_secs_words shown).symm)
  have nanoseconds : w.nanos = t.words.nanos :=
    UInt32.toNat_inj.mp (nanos.trans t.toNat_nanos_words.symm)
  cases w
  rw [words, Words.mk.injEq]
  exact ⟨seconds, nanoseconds⟩

/-- Readings are compared by their words. -/
theorem words_lt_words_iff (left : t.sinceStart < range) (right : u.sinceStart < range) :
    t.words < u.words ↔ t < u := by
  show t.words.secs < u.words.secs ∨ t.words.secs = u.words.secs ∧ t.words.nanos < u.words.nanos ↔
    t.sinceStart < u.sinceStart
  rw [Int64.lt_iff_toInt_lt, ← Int64.toInt_inj, toInt_secs_words left, toInt_secs_words right,
    UInt32.lt_iff_toNat_lt, toNat_nanos_words, toNat_nanos_words, Int.ofNat_lt, Int.ofNat_inj]
  show _ / 10 ^ 9 < _ / 10 ^ 9 ∨ _ / 10 ^ 9 = _ / 10 ^ 9 ∧ _ % 10 ^ 9 < _ % 10 ^ 9 ↔ _
  omega

theorem toNat_nanos_add (t : Instant) (d : Duration) :
    (t.words.nanos + d.words.nanos).toNat = t.sinceStart % nanosPerSecond + d.nanos := by
  have first : t.sinceStart % nanosPerSecond < nanosPerSecond := Nat.mod_lt _ (by decide)
  have short : t.sinceStart % nanosPerSecond + d.nanos < 2 ^ 32 :=
    Nat.lt_trans (Nat.add_lt_add first d.nanos_lt) (by decide)
  rw [UInt32.toNat_add, toNat_nanos_words, Duration.toNat_nanos_words, Nat.mod_eq_of_lt short]

theorem div_advance (t : Instant) (d : Duration) :
    (t.advance d).sinceStart / nanosPerSecond =
      t.sinceStart / nanosPerSecond + d.secs +
        (t.sinceStart % nanosPerSecond + d.nanos) / nanosPerSecond := by
  show (t.sinceStart + (d.secs * 10 ^ 9 + d.nanos)) / 10 ^ 9 =
    t.sinceStart / 10 ^ 9 + d.secs + (t.sinceStart % 10 ^ 9 + d.nanos) / 10 ^ 9
  omega

theorem mod_advance (t : Instant) (d : Duration) :
    (t.advance d).sinceStart % nanosPerSecond =
      (t.sinceStart % nanosPerSecond + d.nanos) % nanosPerSecond := by
  show (t.sinceStart + (d.secs * 10 ^ 9 + d.nanos)) % 10 ^ 9 =
    (t.sinceStart % 10 ^ 9 + d.nanos) % 10 ^ 9
  omega

/-- Seconds and nanoseconds in words make up a reading, as long as the clock can show it. -/
theorem carry?_eq {secs : Int64} {nanos : UInt32} {n : Nat} (seconds : secs.toInt = n)
    (bound : nanos.toNat < nanosPerSecond + nanosPerSecond) (short : n < 2 ^ 63)
    (div : t.sinceStart / nanosPerSecond = n + nanos.toNat / nanosPerSecond)
    (mod : t.sinceStart % nanosPerSecond = nanos.toNat % nanosPerSecond) :
    Words.carry? secs nanos = if t.sinceStart < range then some t.words else none := by
  have second : (1000000000 : UInt32).toNat = nanosPerSecond := rfl
  rw [Words.carry?]
  by_cases below : nanos < 1000000000
  · rw [if_pos below]
    rw [UInt32.lt_iff_toNat_lt, second] at below
    rw [Nat.div_eq_of_lt below, Nat.add_zero] at div
    rw [Nat.mod_eq_of_lt below] at mod
    have shown : t.sinceStart < range := lt_range_iff.mpr (div ▸ short)
    rw [if_pos shown]
    exact congrArg some (eq_words shown (div ▸ seconds) mod.symm)
  · rw [if_neg below]
    rw [UInt32.lt_iff_toNat_lt, second, Nat.not_lt] at below
    have left : nanos.toNat - nanosPerSecond < nanosPerSecond :=
      Nat.sub_lt_left_of_lt_add below bound
    rw [Nat.div_eq_sub_div (by decide) below, Nat.div_eq_of_lt left, Nat.zero_add] at div
    rw [Nat.mod_eq_sub_mod below, Nat.mod_eq_of_lt left] at mod
    by_cases shown : t.sinceStart < range
    · have room := lt_range_iff.mp shown
      rw [div] at room
      obtain ⟨next, carried, held⟩ := Words.exists_addSecs? (b := 1) seconds room
      have rest : (nanos - 1000000000).toNat = t.sinceStart % nanosPerSecond :=
        (UInt32.toNat_sub_of_le nanos 1000000000 (UInt32.le_iff_toNat_le.mpr below)).trans mod.symm
      rw [carried, if_pos shown, Option.map_some]
      exact congrArg some (eq_words shown (div ▸ held) rest)
    · rw [if_neg shown]
      rw [lt_range_iff, div] at shown
      rw [Words.addSecs?_eq_none (b := 1) seconds shown, Option.map_none]

/-- The sum in words is the sum, or it is missing where the clock cannot show that. -/
theorem add?_words (shown : t.sinceStart < range) (d : Duration) :
    t.words.add? d.words = (t.add? d).map words := by
  have seconds := toInt_secs_words shown
  have div := t.div_advance d
  rw [Words.add?]
  by_cases short : t.sinceStart / nanosPerSecond + d.words.secs.toNat < 2 ^ 63
  · -- Without a carry the seconds fit; `carry?_eq` watches what the nanoseconds add to them.
    obtain ⟨secs, sum, held⟩ := Words.exists_addSecs? seconds short
    rw [Duration.toNat_secs_words] at held short
    have nanos := toNat_nanos_add t d
    have bound : (t.words.nanos + d.words.nanos).toNat < nanosPerSecond + nanosPerSecond := by
      rw [nanos]
      exact Nat.add_lt_add (Nat.mod_lt _ (by decide)) d.nanos_lt
    rw [← nanos] at div
    have mod : (t.advance d).sinceStart % nanosPerSecond =
        (t.words.nanos + d.words.nanos).toNat % nanosPerSecond := by rw [nanos, mod_advance]
    rw [sum, Option.bind_some, carry?_eq held bound short div mod, add?]
    split <;> rfl
  · rw [Words.addSecs?_eq_none seconds short, Option.bind_none]
    rw [Duration.toNat_secs_words] at short
    have late : ¬ (t.advance d).sinceStart < range := by
      rw [lt_range_iff, div]
      exact fun fits => short (Nat.lt_of_le_of_lt (Nat.le_add_right _ _) fits)
    rw [add?_eq_none_iff.mpr (Nat.not_lt.mp late), Option.map_none]

end Instant

end Enrollment
