import Enrollment.Proofs.Time.Budget
import Enrollment.Proofs.Time.Clock
import Mathlib.Logic.Function.Iterate

/-!
# Polls that leave the range of their sums

A poll makes three kinds of sums. It adds its budget to the time at which it starts, it adds its
interval to the time behind each failed attempt, and it counts its attempts. `pollInWords` makes
them in machine words; on a clock that shows what it can show this is `poll`.

None of the sums saturates, as the pauses of a backoff do. `Scene` holds all that a poll depends
on, and `Scene.Overflows` says where one leaves a range: the poll fails by its arithmetic there and
nowhere else. A poll that has no deadline fails in this way before its first attempt. Where time is
steady and the clock is not near its end, a poll stays in range if its budget has room for fewer
attempts than a word can count, as that of the standard poll has.
-/

namespace Enrollment

namespace PollPolicy

/-! ## Polls in machine words -/

/-- What follows a failed attempt, with the times to compare in words. -/
def verdictInWords (p : PollPolicy) (operation : String) (started : Instant)
    (deadline : Instant.Words) (now : Instant) : Option PollFailure :=
  match now.words.add? p.interval.words with
  | none => some .outOfRange
  | some wakeUp =>
    if deadline < wakeUp then some (.timedOut ⟨operation, now.since started⟩) else none

theorem toNat_succ {polls : UInt32} (counted : polls.toNat + 1 < UInt32.size) :
    (polls + 1).toNat = polls.toNat + 1 := by
  rw [UInt32.toNat_add]
  exact Nat.mod_eq_of_lt counted

section

variable {m : Type → Type} [Monad m] {ε α : Type}

/-- The attempts from the one behind attempt number `polls` on. Each is counted in a word before it
is made. -/
def attemptsBehind (verdict : Instant → Option PollFailure) (readClock : m Instant)
    (wait : m Unit) (attempt : m (Except ε α)) (polls : UInt32) : m (Except PollFailure α) :=
  if _ : polls.toNat + 1 < UInt32.size then do
    match ← attempt with
    | .ok value => pure (.ok value)
    | .error _ =>
      match verdict (← readClock) with
      | some failure => pure (.error failure)
      | none =>
        wait
        attemptsBehind verdict readClock wait attempt (polls + 1)
  else pure (.error .outOfRange)
termination_by UInt32.size - polls.toNat
decreasing_by
  rw [toNat_succ ‹polls.toNat + 1 < UInt32.size›]
  omega

/-- A poll has as many attempts left as its counter can still count. -/
theorem attemptsBehind_eq (verdict : Instant → Option PollFailure) (readClock : m Instant)
    (wait : m Unit) (attempt : m (Except ε α)) {left : Nat} {polls : UInt32}
    (count : polls.toNat + left = maxAttempts) :
    attemptsBehind verdict readClock wait attempt polls =
      attemptsFrom verdict readClock wait attempt left := by
  -- The word is at its end when no attempt is left.
  induction left generalizing polls with
  | zero =>
      have full : ¬ polls.toNat + 1 < UInt32.size := by
        rw [show polls.toNat = maxAttempts from count]
        decide
      rw [attemptsBehind, dif_neg full, attemptsFrom]
  | succ left ih =>
      have counted : polls.toNat + 1 < UInt32.size := by
        have size : UInt32.size = maxAttempts + 1 := rfl
        omega
      have rest : (polls + 1).toNat + left = maxAttempts := by
        rw [toNat_succ counted]
        omega
      rw [attemptsBehind, dif_pos counted, ih rest]
      rfl

/-- A poll whose sums are those of machine words. -/
def pollInWords (p : PollPolicy) (operation : String) (readClock : m Instant)
    (pause : Duration → m Unit) (attempt : m (Except ε α)) : m (Except PollFailure α) := do
  let started ← readClock
  match started.words.add? p.timeout.words with
  | none => pure (.error .outOfRange)
  | some deadline =>
    attemptsBehind (p.verdictInWords operation started deadline) readClock (pause p.interval)
      attempt 0

end

theorem verdictInWords_eq {p : PollPolicy} {operation : String} {started deadline now : Instant}
    (shown : now.sinceStart < Instant.range) (early : deadline.sinceStart < Instant.range) :
    p.verdictInWords operation started deadline.words now =
      p.verdict operation started deadline now := by
  rw [verdictInWords, verdict_eq, Instant.add?_words shown]
  dsimp only
  cases reached : now.add? p.interval with
  | none => rfl
  | some wakeUp =>
      obtain ⟨rfl, fits⟩ := Instant.add?_eq_some_iff.mp reached
      rw [Option.map_some]
      exact if_congr (Instant.words_lt_words_iff early fits) rfl rfl

end PollPolicy

open PollPolicy

/-- What a poll is run in: a clock, pauses, and the operation that is repeated. Pauses and attempts
may do to the state, and with it to the clock, what they like. -/
structure Scene (σ ε α : Type) where
  clock : σ → Instant
  shown : ∀ s, (clock s).sinceStart < Instant.range
  pause : Duration → σ → σ
  attempt : σ → Except ε α × σ

namespace Scene

variable {σ ε α : Type}

section

variable (scene : Scene σ ε α) (p : PollPolicy)

def readClock : StateM σ Instant := fun s => (scene.clock s, s)

def wait (time : Duration) : StateM σ Unit := fun s => ((), scene.pause time s)

/-- The poll of the operation. -/
def poll (operation : String) : σ → Except PollFailure α × σ :=
  p.poll operation scene.readClock scene.wait scene.attempt

/-- The poll of the operation in machine words. -/
def pollInWords (operation : String) : σ → Except PollFailure α × σ :=
  p.pollInWords operation scene.readClock scene.wait scene.attempt

/-- The attempts that are left. -/
def attempts (verdict : Instant → Option PollFailure) (left : Nat) : σ → Except PollFailure α × σ :=
  attemptsFrom verdict scene.readClock (scene.wait p.interval) scene.attempt left

/-! ## The course of a poll -/

/-- The attempt that begins in `s` fails. -/
def Fails (s : σ) : Prop := ∃ e, (scene.attempt s).1 = .error e

/-- An attempt, and the pause behind it. -/
def round (s : σ) : σ := scene.pause p.interval (scene.attempt s).2

/-- When a poll would wake up again behind the attempt that begins in `s`. -/
def wakeUp (s : σ) : Instant := (scene.clock (scene.attempt s).2).advance p.interval

/-- The deadline of a poll that begins in `s`. -/
def deadline (s : σ) : Instant := (scene.clock s).advance p.timeout

/-- The attempt that begins in `s` fails and leaves room for a pause in front of the deadline. -/
def GoesOn (deadline : Instant) (s : σ) : Prop :=
  scene.Fails s ∧ (scene.wakeUp p s).sinceStart ≤ deadline.sinceStart

/-- From `s` on, `n` attempts fail and leave room for a pause each. -/
def Reaches (deadline : Instant) (n : Nat) (s : σ) : Prop :=
  ∀ i < n, scene.GoesOn p deadline ((scene.round p)^[i] s)

/-- Where a poll that can count `left` attempts from `s` on leaves a range, and the state it is in
by then: behind an attempt that fails when the clock cannot show the time to wake up, or in front
of an attempt that cannot be counted. -/
inductive OverflowsWithin (deadline : Instant) (left : Nat) (s : σ) : σ → Prop
  | wakeUp {n : Nat} (counted : n < left) (reached : scene.Reaches p deadline n s)
      (failed : scene.Fails ((scene.round p)^[n] s))
      (late : Instant.range ≤ (scene.wakeUp p ((scene.round p)^[n] s)).sinceStart) :
      OverflowsWithin deadline left s (scene.attempt ((scene.round p)^[n] s)).2
  | count (reached : scene.Reaches p deadline left s) :
      OverflowsWithin deadline left s ((scene.round p)^[left] s)

/-- Where a poll that begins in `s` leaves a range, and the state it is in by then: at once, when
the clock cannot show the deadline, or on its way to that. -/
inductive Overflows (s : σ) : σ → Prop
  | deadline (late : Instant.range ≤ (scene.deadline p s).sinceStart) : Overflows s s
  | onTheWay {t : σ} (early : (scene.deadline p s).sinceStart < Instant.range)
      (later : scene.OverflowsWithin p (scene.deadline p s) maxAttempts s t) : Overflows s t

end

variable {scene : Scene σ ε α} {p : PollPolicy} {operation : String} {started deadline : Instant}
variable {left n : Nat} {s t : σ}

theorem reaches_zero : scene.Reaches p deadline 0 s :=
  fun _ never => absurd never (Nat.not_lt_zero _)

theorem reaches_succ_iff : scene.Reaches p deadline (n + 1) s ↔
    scene.GoesOn p deadline s ∧ scene.Reaches p deadline n (scene.round p s) := by
  constructor
  · intro reached
    exact ⟨reached 0 (Nat.succ_pos n), fun i before => reached (i + 1) (Nat.succ_lt_succ before)⟩
  · rintro ⟨first, rest⟩ i before
    cases i with
    | zero => exact first
    | succ i => exact rest i (Nat.lt_of_succ_lt_succ before)

theorem Reaches.init (reached : scene.Reaches p deadline (n + 1) s) :
    scene.Reaches p deadline n s :=
  fun i before => reached i (Nat.lt_succ_of_lt before)

/-- The pause in front of an attempt that is reached fits into the budget. -/
theorem Reaches.last (reached : scene.Reaches p deadline (n + 1) s) :
    (scene.clock (scene.attempt ((scene.round p)^[n] s)).2).sinceStart + p.interval.toNanos ≤
      deadline.sinceStart := (reached n (Nat.lt_succ_self n)).2

theorem overflowsWithin_zero_iff : scene.OverflowsWithin p deadline 0 s t ↔ t = s := by
  constructor
  · rintro (⟨never, -⟩ | -)
    · exact absurd never (Nat.not_lt_zero _)
    · rfl
  · rintro rfl
    exact .count reaches_zero

theorem overflowsWithin_succ_iff : scene.OverflowsWithin p deadline (left + 1) s t ↔
    (scene.Fails s ∧ Instant.range ≤ (scene.wakeUp p s).sinceStart ∧ t = (scene.attempt s).2) ∨
      scene.GoesOn p deadline s ∧ scene.OverflowsWithin p deadline left (scene.round p s) t := by
  constructor
  · intro overflows
    cases overflows with
    | @wakeUp n counted reached failed late =>
        cases n with
        | zero => exact .inl ⟨failed, late, rfl⟩
        | succ n =>
            obtain ⟨first, rest⟩ := reaches_succ_iff.mp reached
            exact .inr ⟨first, .wakeUp (Nat.lt_of_succ_lt_succ counted) rest failed late⟩
    | count reached =>
        obtain ⟨first, rest⟩ := reaches_succ_iff.mp reached
        exact .inr ⟨first, .count rest⟩
  · rintro (⟨failed, late, rfl⟩ | ⟨first, overflows⟩)
    · exact .wakeUp (n := 0) (Nat.succ_pos left) reaches_zero failed late
    · cases overflows with
      | @wakeUp n counted rest failed late =>
          exact .wakeUp (n := n + 1) (Nat.succ_lt_succ counted)
            (reaches_succ_iff.mpr ⟨first, rest⟩) failed late
      | count rest => exact .count (reaches_succ_iff.mpr ⟨first, rest⟩)

/-! ## Where a poll leaves the range -/

/-- One attempt, and what follows it. -/
theorem attempts_succ (verdict : Instant → Option PollFailure) (left : Nat) (s : σ) :
    scene.attempts p verdict (left + 1) s =
      match (scene.attempt s).1, verdict (scene.clock (scene.attempt s).2) with
      | .ok v, _ => (.ok v, (scene.attempt s).2)
      | .error _, some failure => (.error failure, (scene.attempt s).2)
      | .error _, none => scene.attempts p verdict left (scene.round p s) := by
  rw [attempts, attemptsFrom, bind_apply]
  cases (scene.attempt s).1 with
  | ok v => rfl
  | error e =>
      dsimp only
      rw [bind_apply]
      dsimp only [readClock]
      cases verdict (scene.clock (scene.attempt s).2) with
      | some failure => rfl
      | none => rfl

theorem attempts_zero (verdict : Instant → Option PollFailure) (s : σ) :
    scene.attempts p verdict 0 s = (.error .outOfRange, s) := rfl

theorem attempts_eq_outOfRange_iff (early : deadline.sinceStart < Instant.range) :
    scene.attempts p (p.verdict operation started deadline) left s = (.error .outOfRange, t) ↔
      scene.OverflowsWithin p deadline left s t := by
  induction left generalizing s with
  | zero => rw [overflowsWithin_zero_iff, attempts_zero, Prod.mk.injEq, eq_self, true_and, eq_comm]
  | succ left ih =>
      -- An attempt succeeds, or it fails and the poll sees no time to wake up at, waits, or gives up.
      rw [overflowsWithin_succ_iff, attempts_succ, GoesOn]
      cases came : (scene.attempt s).1 with
      | ok v =>
          have succeeds : ¬ scene.Fails s := by
            rintro ⟨e, failed⟩
            cases came.symm.trans failed
          simp [succeeds]
      | error e =>
          have fails : scene.Fails s := ⟨e, came⟩
          by_cases late : Instant.range ≤ (scene.wakeUp p s).sinceStart
          · have full : ¬ (scene.wakeUp p s).sinceStart ≤ deadline.sinceStart := by omega
            rw [verdict_of_late late]
            simp [fails, late, full, eq_comm]
          · rw [verdict_of_shown (Nat.lt_of_not_le late), ← wakeUp]
            by_cases room : (scene.wakeUp p s).sinceStart ≤ deadline.sinceStart
            · rw [if_pos room]
              simp [fails, late, room, ih]
            · rw [if_neg room]
              simp [late, room]

theorem clock_bind {β : Type} (f : Instant → StateM σ β) (s : σ) :
    (scene.readClock >>= f) s = f (scene.clock s) s := rfl

-- What follows the first reading is left to unification here: written out, the kernel would count
-- the attempts.
theorem poll_of_late (late : Instant.range ≤ (scene.deadline p s).sinceStart) :
    scene.poll p operation s = (.error .outOfRange, s) := by
  have missing : (scene.clock s).add? p.timeout = none := Instant.add?_eq_none_iff.mpr late
  have starts : scene.poll p operation s = _ := clock_bind _ s
  rw [missing] at starts
  exact starts

theorem poll_of_early (early : (scene.deadline p s).sinceStart < Instant.range) :
    scene.poll p operation s =
      scene.attempts p (p.verdict operation (scene.clock s) (scene.deadline p s))
        maxAttempts s := by
  have reachable : (scene.clock s).add? p.timeout = some (scene.deadline p s) := by
    rw [Instant.add?_eq_some_iff]
    exact ⟨rfl, early⟩
  have starts : scene.poll p operation s = _ := clock_bind _ s
  rw [reachable] at starts
  exact starts

/-- Verdicts make no difference that agree on what the clock can show. -/
theorem attempts_congr {verdict verdict' : Instant → Option PollFailure}
    (same : ∀ s, verdict (scene.clock s) = verdict' (scene.clock s)) (left : Nat) (s : σ) :
    scene.attempts p verdict left s = scene.attempts p verdict' left s := by
  induction left generalizing s with
  | zero => rfl
  | succ left ih => rw [attempts_succ, attempts_succ, same, ih]

theorem pollInWords_of_late (late : Instant.range ≤ (scene.deadline p s).sinceStart) :
    scene.pollInWords p operation s = (.error .outOfRange, s) := by
  have missing : (scene.clock s).add? p.timeout = none := Instant.add?_eq_none_iff.mpr late
  have starts : scene.pollInWords p operation s = _ := clock_bind _ s
  rw [Instant.add?_words (scene.shown s), missing, Option.map_none] at starts
  exact starts

theorem pollInWords_of_early (early : (scene.deadline p s).sinceStart < Instant.range) :
    scene.pollInWords p operation s =
      scene.attempts p (p.verdictInWords operation (scene.clock s) (scene.deadline p s).words)
        maxAttempts s := by
  have reachable : (scene.clock s).add? p.timeout = some (scene.deadline p s) := by
    rw [Instant.add?_eq_some_iff]
    exact ⟨rfl, early⟩
  have starts : scene.pollInWords p operation s = _ := clock_bind _ s
  rw [Instant.add?_words (scene.shown s), reachable, Option.map_some] at starts
  dsimp only at starts
  rw [attemptsBehind_eq _ _ _ _ (Nat.zero_add maxAttempts)] at starts
  exact starts

/-- In machine words a poll is the same. -/
theorem pollInWords_eq (scene : Scene σ ε α) (p : PollPolicy) (operation : String) (s : σ) :
    scene.pollInWords p operation s = scene.poll p operation s := by
  by_cases early : (scene.deadline p s).sinceStart < Instant.range
  · rw [pollInWords_of_early early, poll_of_early early]
    exact attempts_congr (fun s => verdictInWords_eq (scene.shown s) early) maxAttempts s
  · have late := Nat.not_lt.mp early
    rw [pollInWords_of_late late, poll_of_late late]

/-- One failed attempt is enough when the clock cannot show the time to wake up behind it. -/
theorem overflows_of_failure (early : (scene.deadline p s).sinceStart < Instant.range)
    (failed : scene.Fails s) (late : Instant.range ≤ (scene.wakeUp p s).sinceStart) :
    scene.Overflows p s (scene.attempt s).2 :=
  .onTheWay early (.wakeUp (n := 0) (by decide) reaches_zero failed late)

/-- A poll fails by its arithmetic just where it leaves a range. -/
theorem poll_eq_outOfRange_iff :
    scene.poll p operation s = (.error .outOfRange, t) ↔ scene.Overflows p s t := by
  by_cases early : (scene.deadline p s).sinceStart < Instant.range
  · rw [poll_of_early early, attempts_eq_outOfRange_iff early]
    constructor
    · exact .onTheWay early
    · rintro (late | ⟨-, later⟩)
      · exact absurd early (Nat.not_lt.mpr late)
      · exact later
  · rw [poll_of_late (Nat.not_lt.mp early), Prod.mk.injEq, eq_self, true_and]
    constructor
    · rintro rfl
      exact .deadline (Nat.not_lt.mp early)
    · rintro (- | ⟨shown, -⟩)
      · rfl
      · exact absurd shown early

/-! ## Polls that stay in range -/

/-- Time does not run backwards, an attempt takes no longer than `most`, and a pause takes its time
and no more than `most` beyond it, as long as the clock can show that. -/
structure Steady (scene : Scene σ ε α) (most : Duration) : Prop where
  le_ended : ∀ s, (scene.clock s).sinceStart ≤ (scene.clock (scene.attempt s).2).sinceStart
  ended_le : ∀ s, (scene.clock (scene.attempt s).2).sinceStart ≤
    (scene.clock s).sinceStart + most.toNanos
  le_woken : ∀ time s, (scene.clock s).sinceStart + time.toNanos + most.toNanos < Instant.range →
    (scene.clock s).sinceStart + time.toNanos ≤ (scene.clock (scene.pause time s)).sinceStart
  woken_le : ∀ time s, (scene.clock (scene.pause time s)).sinceStart ≤
    (scene.clock s).sinceStart + time.toNanos + most.toNanos

namespace Steady

variable {most : Duration}

/-- The attempts that are reached begin behind the pauses that have been made. -/
theorem mul_interval_le (steady : scene.Steady most)
    (far : deadline.sinceStart + most.toNanos < Instant.range)
    (reached : scene.Reaches p deadline n s) :
    (scene.clock s).sinceStart + n * p.interval.toNanos ≤
      (scene.clock ((scene.round p)^[n] s)).sinceStart := by
  induction n with
  | zero => exact Nat.le_of_eq (by rw [Nat.zero_mul]; rfl)
  | succ n ih =>
      have begun := ih reached.init
      have ended := steady.le_ended ((scene.round p)^[n] s)
      have room := reached.last
      have woken := steady.le_woken p.interval (scene.attempt ((scene.round p)^[n] s)).2 (by omega)
      rw [Function.iterate_succ_apply', round, Nat.succ_mul]
      omega

/-- No attempt begins long behind the deadline. -/
theorem clock_le (steady : scene.Steady most)
    (begun : (scene.clock s).sinceStart ≤ deadline.sinceStart)
    (reached : scene.Reaches p deadline n s) :
    (scene.clock ((scene.round p)^[n] s)).sinceStart ≤ deadline.sinceStart + most.toNanos := by
  cases n with
  | zero => exact Nat.le_trans begun (Nat.le_add_right _ _)
  | succ n =>
      have room := reached.last
      have woken := steady.woken_le p.interval (scene.attempt ((scene.round p)^[n] s)).2
      rw [Function.iterate_succ_apply', round]
      omega

/-- There is no further attempt than the budget has room for. -/
theorem mul_interval_le_timeout (steady : scene.Steady most)
    (far : (scene.deadline p s).sinceStart + most.toNanos < Instant.range)
    (reached : scene.Reaches p (scene.deadline p s) n s) :
    n * p.interval.toNanos ≤ p.timeout.toNanos := by
  cases n with
  | zero => exact Nat.le_trans (Nat.le_of_eq (Nat.zero_mul _)) (Nat.zero_le _)
  | succ n =>
      have begun := steady.mul_interval_le far reached.init
      have ended := steady.le_ended ((scene.round p)^[n] s)
      have room := reached.last
      rw [deadline, Instant.sinceStart_advance] at room
      rw [Nat.succ_mul]
      omega

/-- A poll stays in range when the clock is not near its end, and the budget has room for fewer
attempts than a word can count. -/
theorem not_overflows (steady : scene.Steady most)
    (far : (scene.deadline p s).sinceStart + most.toNanos + most.toNanos + p.interval.toNanos <
      Instant.range)
    (few : p.timeout.toNanos < maxAttempts * p.interval.toNanos) :
    ¬ scene.Overflows p s t := by
  have begun : (scene.clock s).sinceStart ≤ (scene.deadline p s).sinceStart := by
    rw [deadline, Instant.sinceStart_advance]
    exact Nat.le_add_right _ _
  rintro (late | ⟨-, @⟨n, -, reached, -, late⟩ | reached⟩)
  · omega
  · have shown := steady.clock_le begun reached
    have ended := steady.ended_le ((scene.round p)^[n] s)
    rw [wakeUp, Instant.sinceStart_advance] at late
    omega
  · exact absurd (steady.mul_interval_le_timeout (by omega) reached) (Nat.not_le.mpr few)

/-- The standard poll stays in range up to the last half minute of the clock. -/
theorem not_overflows_standard (steady : scene.Steady most)
    (far : (scene.clock s).sinceStart + most.toNanos + most.toNanos +
      (Duration.ofSeconds 33).toNanos < Instant.range) :
    ¬ scene.Overflows standard s t := by
  have sum : (Duration.ofSeconds 33).toNanos =
      standard.timeout.toNanos + standard.interval.toNanos := by decide
  have few : standard.timeout.toNanos < maxAttempts * standard.interval.toNanos := by decide
  refine steady.not_overflows ?_ few
  rw [deadline, Instant.sinceStart_advance]
  omega

end Steady

/-! ## A clock that ticks -/

/-- The clock, and the number of attempts that have been made. -/
structure Ticks where
  now : Instant
  shown : now.sinceStart < Instant.range
  made : Nat

def Ticks.start : Ticks := ⟨Instant.start, by decide, 0⟩

/-- Attempts take no time, and all come to the same. Pauses take exactly their time, until the clock
stands still at the last reading that it has. -/
def ticking (came : Except ε α) : Scene Ticks ε α where
  clock := Ticks.now
  shown := Ticks.shown
  pause := fun time s => {
    now := ⟨min (s.now.sinceStart + time.toNanos) (Instant.range - 1)⟩
    shown := Nat.lt_of_le_of_lt (Nat.min_le_right _ _) (by decide)
    made := s.made }
  attempt := fun s => (came, { s with made := s.made + 1 })

theorem clock_ticking (came : Except ε α) (s : Ticks) : (ticking came).clock s = s.now := rfl

theorem now_attempt_ticking (came : Except ε α) (s : Ticks) :
    ((ticking came).attempt s).2.now = s.now := rfl

theorem now_pause_ticking (came : Except ε α) (time : Duration) (s : Ticks) :
    ((ticking came).pause time s).now =
      ⟨min (s.now.sinceStart + time.toNanos) (Instant.range - 1)⟩ := rfl

theorem steady_ticking (came : Except ε α) : (ticking came).Steady .zero where
  le_ended := by
    intro s
    rw [clock_ticking, clock_ticking, now_attempt_ticking]
  ended_le := by
    intro s
    rw [clock_ticking, clock_ticking, now_attempt_ticking]
    exact Nat.le_add_right _ _
  le_woken := by
    intro time s fits
    rw [clock_ticking] at fits
    rw [clock_ticking, clock_ticking, now_pause_ticking]
    dsimp only
    omega
  woken_le := by
    intro time s
    rw [clock_ticking, clock_ticking, now_pause_ticking]
    dsimp only
    omega

/-- The standard poll of an operation that takes no time stays in range. -/
theorem standard_stays_in_range (came : Except ε α) {t : Ticks} :
    ¬ (ticking came).Overflows standard .start t := by
  refine (steady_ticking came).not_overflows_standard ?_
  rw [clock_ticking]
  decide

section

variable (came : Except ε α) (p : PollPolicy) (n : Nat)

theorem made_iterate_round : (((ticking came).round p)^[n] .start).made = n := by
  induction n with
  | zero => rfl
  | succ n ih =>
      rw [Function.iterate_succ_apply']
      exact congrArg Nat.succ ih

theorem now_iterate_round_le :
    (((ticking came).round p)^[n] .start).now.sinceStart ≤ n * p.interval.toNanos := by
  induction n with
  | zero => exact Nat.zero_le _
  | succ n ih =>
      rw [Function.iterate_succ_apply', Nat.succ_mul]
      exact Nat.le_trans (Nat.min_le_left _ _) (Nat.add_le_add_right ih _)

end

/-- Attempts that all fail at once cannot be counted when the budget has room for them. -/
theorem overflows_of_room {p : PollPolicy} (e : ε)
    (early : p.timeout.toNanos < Instant.range)
    (room : maxAttempts * p.interval.toNanos ≤ p.timeout.toNanos) :
    (ticking (.error e : Except ε α)).Overflows p .start
      (((ticking (.error e : Except ε α)).round p)^[maxAttempts] .start) := by
  have limit : ((ticking (.error e : Except ε α)).deadline p .start).sinceStart =
      p.timeout.toNanos := Nat.zero_add _
  refine .onTheWay (limit ▸ early) (.count ?_)
  intro i before
  refine ⟨⟨e, rfl⟩, ?_⟩
  have begun := now_iterate_round_le (.error e : Except ε α) p i
  have pauses := Nat.mul_le_mul_right p.interval.toNanos (Nat.succ_le_of_lt before)
  rw [Nat.succ_mul] at pauses
  rw [limit, wakeUp, Instant.sinceStart_advance, clock_ticking, now_attempt_ticking]
  omega

/-! ## Exactness -/

/-- The sums of a poll, which are those of machine words, do not saturate: the poll fails by its
arithmetic just where the clock cannot show the deadline, or cannot show the time to wake up at
behind a failed attempt, or where all attempts that a word can count have failed and there is room
for a further one. -/
theorem poll_overflows_exactly (scene : Scene σ ε α) (p : PollPolicy) (operation : String)
    (s t : σ) :
    scene.pollInWords p operation s = scene.poll p operation s ∧
      (scene.poll p operation s = (.error .outOfRange, t) ↔ scene.Overflows p s t) :=
  ⟨pollInWords_eq scene p operation s, poll_eq_outOfRange_iff⟩

/-- Each of the sums can leave its range, and does so on a clock that ticks: where a poll has no
end, before an attempt is made that would succeed; where its pause has none, behind the first
attempt that fails; and where its pauses are short, in front of an attempt that cannot be counted,
as early as within the first five seconds. -/
theorem long_polls_overflow :
    (∃ t, (ticking (.ok () : Except Unit Unit)).poll ⟨.longest, .ofSeconds 3⟩ "operation" .start =
        (.error .outOfRange, t) ∧ t.made = 0) ∧
      (∃ t, (ticking (.error () : Except Unit Unit)).poll ⟨.ofSeconds 30, .longest⟩ "operation"
        .start = (.error .outOfRange, t) ∧ t.made = 1) ∧
      ∃ t, (ticking (.error () : Except Unit Unit)).poll ⟨.ofSeconds 30, .ofNanos 1⟩ "operation"
        .start = (.error .outOfRange, t) ∧ t.made = 4294967295 := by
  refine ⟨?_, ?_, ?_⟩
  · have late : Instant.range ≤ (Instant.start.advance .longest).sinceStart := by decide
    exact ⟨_, poll_eq_outOfRange_iff.mpr (.deadline late), rfl⟩
  · have early : (Instant.start.advance (.ofSeconds 30)).sinceStart < Instant.range := by decide
    have late : Instant.range ≤ (Instant.start.advance .longest).sinceStart := by decide
    exact ⟨_, poll_eq_outOfRange_iff.mpr (overflows_of_failure early ⟨(), rfl⟩ late), rfl⟩
  · have early : (Duration.ofSeconds 30).toNanos < Instant.range := by decide
    have room : maxAttempts * (Duration.ofNanos 1).toNanos ≤ (Duration.ofSeconds 30).toNanos := by
      decide
    exact ⟨_, poll_eq_outOfRange_iff.mpr (overflows_of_room () early room),
      made_iterate_round _ _ _⟩

end Scene

end Enrollment
