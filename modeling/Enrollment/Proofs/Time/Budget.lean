import Enrollment.Time.Polling

/-!
# The budget of a poll

A poll is followed here on a script that says how long each attempt takes and what comes of it,
beside a clock that a pause moves by exactly its time. When attempt number `n` begins and ends is
then known in advance, provided that the poll gets that far; and it gets that far when all
attempts in front of it fail and leave room for another pause. The poll stops at the one attempt
that it reaches and that succeeds or leaves no room.
-/

namespace Enrollment.PollPolicy

-- Said of the function, not of its values: for those the kernel would look into the reading ahead,
-- and count up to the end of the clock.
theorem verdict_eq : verdict = fun p operation started deadline now =>
    match now.add? p.interval with
    | none => some .outOfRange
    | some wakeUp =>
      if deadline < wakeUp then some (.timedOut ⟨operation, now.since started⟩) else none := rfl

section

variable {p : PollPolicy} {operation : String} {started deadline now : Instant}

theorem verdict_of_late (late : Instant.range ≤ (now.advance p.interval).sinceStart) :
    p.verdict operation started deadline now = some .outOfRange := by
  rw [verdict_eq]
  dsimp only
  rw [Instant.add?_eq_none_iff.mpr late]

theorem verdict_of_shown (shown : (now.advance p.interval).sinceStart < Instant.range) :
    p.verdict operation started deadline now =
      if (now.advance p.interval).sinceStart ≤ deadline.sinceStart then none
      else some (.timedOut ⟨operation, now.since started⟩) := by
  have reachable : now.add? p.interval = some (now.advance p.interval) := by
    rw [Instant.add?_eq_some_iff]
    exact ⟨rfl, shown⟩
  rw [verdict_eq]
  dsimp only
  rw [reachable]
  by_cases early : (now.advance p.interval).sinceStart ≤ deadline.sinceStart
  · rw [if_pos early]
    exact if_neg (Nat.not_lt.mpr early)
  · rw [if_neg early]
    exact if_pos (Nat.lt_of_not_le early)

end

/-! ## Scripted polls -/

/-- What a poll does: it begins an attempt, or it pauses. -/
inductive Deed where
  | attempt (begun : Instant)
  | pause (time : Duration)
  deriving DecidableEq, Repr

/-- The clock, the number of attempts that have been made, and all that has been done. -/
structure Trace where
  now : Instant
  made : Nat := 0
  deeds : List Deed := []
  deriving DecidableEq, Repr

variable {ε α : Type}

/-- How long each attempt takes, and what comes of it. -/
abbrev Script (ε α : Type) := Nat → Duration × Except ε α

namespace Trace

def clock : StateM Trace Instant := fun t => (t.now, t)

def pause (time : Duration) : StateM Trace Unit := fun t =>
  ((), { t with now := Pacing.virtual.advance t.now time, deeds := t.deeds ++ [.pause time] })

def attempt (script : Script ε α) : StateM Trace (Except ε α) := fun t =>
  ((script t.made).2,
    { now := t.now.advance (script t.made).1
      made := t.made + 1
      deeds := t.deeds ++ [.attempt t.now] })

end Trace

/-- The poll of an operation that follows a script. -/
def scripted (p : PollPolicy) (operation : String) (script : Script ε α) :
    StateM Trace (Except PollFailure α) :=
  p.poll operation Trace.clock Trace.pause (Trace.attempt script)

/-! ## When attempts begin and end -/

section

variable (p : PollPolicy) (script : Script ε α)

/-- The nanoseconds from the start of the poll to the beginning of attempt number `n`. -/
def begins : Nat → Nat
  | 0 => 0
  | n + 1 => begins n + (script n).1.toNanos + p.interval.toNanos

/-- The nanoseconds from the start of the poll to the end of attempt number `n`. -/
def ends (n : Nat) : Nat := p.begins script n + (script n).1.toNanos

/-- Behind attempt number `n` another pause fits into the budget. -/
def HasRoom (n : Nat) : Prop := p.ends script n + p.interval.toNanos ≤ p.timeout.toNanos

def Fails (script : Script ε α) (n : Nat) : Prop := ∃ e, (script n).2 = .error e

/-- The poll gets to attempt number `n`. -/
def Reaches (n : Nat) : Prop := ∀ i < n, Fails script i ∧ p.HasRoom script i

/-- The poll gets to attempt number `n`, and no further. -/
def StopsAt (n : Nat) : Prop := p.Reaches script n ∧ ¬ (Fails script n ∧ p.HasRoom script n)

/-- What is worked out in the course of the poll stays in range: the clock can show the deadline
and every time to wake up at, and the attempts can be counted in 32 bits. -/
structure InRange (started : Instant) : Prop where
  deadline : started.sinceStart + p.timeout.toNanos < Instant.range
  wakeUp : ∀ n, p.Reaches script n → Fails script n →
    started.sinceStart + p.ends script n + p.interval.toNanos < Instant.range
  counted : ∀ n, p.Reaches script n → n < maxAttempts

end

section

variable {p : PollPolicy} {script : Script ε α} {n k : Nat}

theorem begins_succ : p.begins script (n + 1) = p.ends script n + p.interval.toNanos := rfl

theorem reaches_zero : p.Reaches script 0 := fun _ never => absurd never (Nat.not_lt_zero _)

theorem Reaches.succ (h : p.Reaches script n) (failed : Fails script n)
    (room : p.HasRoom script n) : p.Reaches script (n + 1) := by
  intro i before
  rcases Nat.lt_succ_iff_lt_or_eq.mp before with earlier | rfl
  · exact h i earlier
  · exact ⟨failed, room⟩

theorem Reaches.mono (h : p.Reaches script n) (le : k ≤ n) : p.Reaches script k :=
  fun i before => h i (Nat.lt_of_lt_of_le before le)

/-- No attempt begins behind the deadline. -/
theorem Reaches.begins_le (h : p.Reaches script n) :
    p.begins script n ≤ p.timeout.toNanos := by
  cases n with
  | zero => exact Nat.zero_le _
  | succ n => exact (h n (Nat.lt_succ_self n)).2

/-- Every attempt begins behind the pauses that have been made. -/
theorem mul_interval_le_begins (p : PollPolicy) (script : Script ε α) (n : Nat) :
    n * p.interval.toNanos ≤ p.begins script n := by
  induction n with
  | zero => exact Nat.le_of_eq (Nat.zero_mul _)
  | succ n ih =>
      rw [begins, Nat.succ_mul]
      omega

/-- There is no further attempt than the budget has room for. -/
theorem Reaches.le_div (h : p.Reaches script n) (waits : 0 < p.interval.toNanos) :
    n ≤ p.timeout.toNanos / p.interval.toNanos := by
  rw [Nat.le_div_iff_mul_le waits]
  exact Nat.le_trans (mul_interval_le_begins p script n) h.begins_le

/-- A poll stops at one attempt only. -/
theorem StopsAt.unique (h : p.StopsAt script n) (h' : p.StopsAt script k) : n = k := by
  rcases Nat.lt_trichotomy n k with earlier | same | later
  · exact absurd (h'.1 n earlier) h.2
  · exact same
  · exact absurd (h.1 k later) h'.2

theorem stopsAt_of_ok {v : α} (reached : p.Reaches script n) (succeeds : (script n).2 = .ok v) :
    p.StopsAt script n := by
  refine ⟨reached, ?_⟩
  rintro ⟨⟨e, failed⟩, -⟩
  cases succeeds.symm.trans failed

theorem stopsAt_of_full (reached : p.Reaches script n) (full : ¬ p.HasRoom script n) :
    p.StopsAt script n := ⟨reached, fun more => full more.2⟩

end

/-! ## The course of a poll -/

section

variable (p : PollPolicy) (script : Script ε α) (started : Instant)

/-- What the clock shows when attempt number `n` begins. -/
def beginning (n : Nat) : Instant := ⟨started.sinceStart + p.begins script n⟩

/-- The poll as it is about to begin attempt number `n`. -/
def before (n : Nat) : Trace where
  now := p.beginning script started n
  made := n
  deeds := (List.range n).flatMap fun i =>
    [.attempt (p.beginning script started i), .pause p.interval]

/-- The poll as it has just made attempt number `n`. -/
def behind (n : Nat) : Trace where
  now := ⟨started.sinceStart + p.ends script n⟩
  made := n + 1
  deeds := (p.before script started n).deeds ++ [.attempt (p.beginning script started n)]

/-- The result of a poll that stops at attempt number `n`. -/
def resultAt (operation : String) (n : Nat) : Except PollFailure α :=
  (script n).2.mapError fun _ => .timedOut ⟨operation, Duration.ofNanos (p.ends script n)⟩

end

section

variable {p : PollPolicy} {script : Script ε α} {started : Instant} {operation : String} {n : Nat}

theorem attempt_before :
    Trace.attempt script (p.before script started n) =
      ((script n).2, p.behind script started n) := by
  simp only [Trace.attempt, before, behind, beginning, ends, Instant.advance, Nat.add_assoc]

theorem pause_behind :
    Trace.pause p.interval (p.behind script started n) =
      ((), p.before script started (n + 1)) := by
  have woken : Pacing.virtual.advance ⟨started.sinceStart + p.ends script n⟩ p.interval =
      p.beginning script started (n + 1) := by
    simp only [Pacing.virtual, Instant.advance, beginning, begins_succ, Nat.add_assoc]
  simp only [Trace.pause, behind, woken, before, List.range_succ, List.flatMap_append,
    List.flatMap_singleton, List.append_assoc, List.cons_append, List.nil_append]

/-- The clock shows less than the deadline at the next time to wake up, if there is room. -/
theorem late_iff :
    started.advance p.timeout < (p.behind script started n).now.advance p.interval ↔
      ¬ p.HasRoom script n := by
  show started.sinceStart + p.timeout.toNanos <
    started.sinceStart + p.ends script n + p.interval.toNanos ↔ _
  rw [HasRoom]
  omega

theorem since_behind : (p.behind script started n).now.since started =
    Duration.ofNanos (p.ends script n) :=
  congrArg Duration.ofNanos (Nat.add_sub_cancel_left _ _)

/-- With room for another pause the poll goes on. -/
theorem verdict_of_room (room : p.HasRoom script n)
    (shown : started.sinceStart + p.ends script n + p.interval.toNanos < Instant.range) :
    p.verdict operation started (started.advance p.timeout) (p.behind script started n).now =
      none := by
  have wakes : ((p.behind script started n).now.advance p.interval).sinceStart < Instant.range :=
    shown
  rw [verdict_of_shown wakes]
  exact if_pos (Nat.not_lt.mp fun late => late_iff.mp late room)

/-- Without room the poll gives up, and reports how long it has been running. -/
theorem verdict_of_full (full : ¬ p.HasRoom script n)
    (shown : started.sinceStart + p.ends script n + p.interval.toNanos < Instant.range) :
    p.verdict operation started (started.advance p.timeout) (p.behind script started n).now =
      some (.timedOut ⟨operation, Duration.ofNanos (p.ends script n)⟩) := by
  have wakes : ((p.behind script started n).now.advance p.interval).sinceStart < Instant.range :=
    shown
  rw [verdict_of_shown wakes, since_behind]
  exact if_neg (Nat.not_le.mpr (late_iff.mpr full))

theorem bind_apply {σ β γ : Type} (x : StateM σ β) (f : β → StateM σ γ) (s : σ) :
    (x >>= f) s = f (x s).1 (x s).2 := rfl

/-- One attempt, and what follows it. -/
theorem attemptsFrom_before (verdict : Instant → Option PollFailure) (left : Nat) :
    attemptsFrom verdict Trace.clock (Trace.pause p.interval) (Trace.attempt script) (left + 1)
        (p.before script started n) =
      match (script n).2, verdict (p.behind script started n).now with
      | .ok v, _ => (.ok v, p.behind script started n)
      | .error _, some failure => (.error failure, p.behind script started n)
      | .error _, none =>
        attemptsFrom verdict Trace.clock (Trace.pause p.interval) (Trace.attempt script) left
          (p.before script started (n + 1)) := by
  rw [attemptsFrom, bind_apply, attempt_before]
  cases (script n).2 with
  | ok v => rfl
  | error e =>
      dsimp only
      rw [bind_apply]
      dsimp only [Trace.clock]
      cases verdict (p.behind script started n).now with
      | some failure => rfl
      | none =>
          dsimp only
          rw [bind_apply, pause_behind]

/-- The attempts from number `n` on, of which `left` can still be counted. -/
theorem exists_attemptsFrom (inRange : p.InRange script started) (left : Nat)
    (reached : p.Reaches script n) (count : n + left = maxAttempts) :
    ∃ k, p.StopsAt script k ∧
      attemptsFrom (p.verdict operation started (started.advance p.timeout)) Trace.clock
          (Trace.pause p.interval) (Trace.attempt script) left (p.before script started n) =
        (p.resultAt script operation k, p.behind script started k) := by
  induction left generalizing n with
  | zero =>
      have counted := inRange.counted n reached
      rw [← count] at counted
      exact absurd counted (Nat.lt_irrefl n)
  | succ left ih =>
      rw [attemptsFrom_before]
      cases came : (script n).2 with
      | ok v =>
          refine ⟨n, stopsAt_of_ok reached came, ?_⟩
          rw [resultAt, came]
          rfl
      | error e =>
          have failed : Fails script n := ⟨e, came⟩
          have shown := inRange.wakeUp n reached failed
          by_cases room : p.HasRoom script n
          · rw [verdict_of_room room shown]
            exact ih (reached.succ failed room) (Nat.succ_add_eq_add_succ n left ▸ count)
          · rw [verdict_of_full room shown]
            refine ⟨n, stopsAt_of_full reached room, ?_⟩
            rw [resultAt, came]
            rfl

theorem clock_bind {β : Type} (f : Instant → StateM Trace β) (t : Trace) :
    (Trace.clock >>= f) t = f t.now t := rfl

-- What follows the first reading is left to unification, for the same reason as above.
theorem scripted_eq (operation : String) (t : Trace) {deadline : Instant}
    (reachable : t.now.add? p.timeout = some deadline) :
    p.scripted operation script t =
      attemptsFrom (p.verdict operation t.now deadline) Trace.clock (Trace.pause p.interval)
        (Trace.attempt script) maxAttempts t := by
  have starts : p.scripted operation script t = _ := clock_bind _ t
  rw [reachable] at starts
  exact starts

/-- A poll that stays in range stops at some attempt, with the result of that. -/
theorem exists_scripted (operation : String) (inRange : p.InRange script started) :
    ∃ k, p.StopsAt script k ∧ p.scripted operation script { now := started } =
      (p.resultAt script operation k, p.behind script started k) := by
  have reachable : started.add? p.timeout = some (started.advance p.timeout) := by
    rw [Instant.add?_eq_some_iff]
    exact ⟨rfl, inRange.deadline⟩
  rw [scripted_eq operation { now := started } reachable]
  exact exists_attemptsFrom inRange maxAttempts reaches_zero (Nat.zero_add _)

theorem range_le_longest : Instant.range ≤ Duration.longest.toNanos := by decide

/-- The time until a poll gives up is reported as it is. -/
theorem toNanos_ofNanos_ends
    (shown : started.sinceStart + p.ends script n + p.interval.toNanos < Instant.range) :
    (Duration.ofNanos (p.ends script n)).toNanos = p.ends script n := by
  have front : p.ends script n ≤ started.sinceStart + p.ends script n := Nat.le_add_left _ _
  have short : p.ends script n ≤ Duration.longest.toNanos :=
    calc p.ends script n
      _ ≤ started.sinceStart + p.ends script n + p.interval.toNanos := Nat.le_add_right_of_le front
      _ ≤ Instant.range := Nat.le_of_lt shown
      _ ≤ Duration.longest.toNanos := range_le_longest
  rw [Duration.ofNanos, Duration.toNanos_saturating, Nat.zero_mul, Nat.zero_add]
  exact Nat.min_eq_left short

theorem resultAt_eq_ok_iff {v : α} :
    p.resultAt script operation n = .ok v ↔ (script n).2 = .ok v := by
  rw [resultAt]
  cases (script n).2 <;> constructor <;> rintro ⟨⟩ <;> rfl

theorem resultAt_eq_error_iff {failure : PollFailure} :
    p.resultAt script operation n = .error failure ↔
      Fails script n ∧ failure = .timedOut ⟨operation, Duration.ofNanos (p.ends script n)⟩ := by
  rw [resultAt, Fails]
  cases (script n).2 with
  | ok w =>
      constructor
      · intro other
        cases other
      · rintro ⟨⟨e, other⟩, -⟩
        cases other
  | error e =>
      constructor
      · rintro ⟨⟩
        exact ⟨⟨e, rfl⟩, rfl⟩
      · rintro ⟨-, rfl⟩
        rfl

theorem begins_of_instant (instant : ∀ i, (script i).1.toNanos = 0) (n : Nat) :
    p.begins script n = n * p.interval.toNanos := by
  induction n with
  | zero => exact (Nat.zero_mul _).symm
  | succ n ih => rw [begins, instant, ih, Nat.add_zero, Nat.succ_mul]

/-- When all attempts fail and take no time, the poll stops where its pauses fill the budget. -/
theorem StopsAt.eq_div (h : p.StopsAt script n) (waits : 0 < p.interval.toNanos)
    (instant : ∀ i, Fails script i ∧ (script i).1.toNanos = 0) :
    n = p.timeout.toNanos / p.interval.toNanos := by
  have begun : p.begins script n = n * p.interval.toNanos :=
    begins_of_instant (fun i => (instant i).2) n
  have full : ¬ p.HasRoom script n := fun room => h.2 ⟨(instant n).1, room⟩
  rw [HasRoom, ends, (instant n).2, Nat.add_zero, begun, ← Nat.succ_mul] at full
  have above : p.timeout.toNanos / p.interval.toNanos < n + 1 := by
    rw [Nat.div_lt_iff_lt_mul waits]
    exact Nat.lt_of_not_le full
  exact Nat.le_antisymm (h.1.le_div waits) (Nat.le_of_lt_succ above)

/-- A poll that keeps to its budget, and makes attempt number `last` as its last one. It yields the
value of the first success if there is room for another pause behind every attempt in front of it,
and fails with the time behind the first failure that leaves no room otherwise. There is a pause
between two attempts, and no other. Every attempt begins within the budget, which bounds their
number; and the bound is met by attempts that all fail and take no time. -/
structure KeepsBudget (p : PollPolicy) (operation : String) (script : Script ε α)
    (started : Instant) (last : Nat) (result : Except PollFailure α) (trace : Trace) : Prop where
  succeeds : ∀ v, result = .ok v ↔ ∃ k, p.Reaches script k ∧ (script k).2 = .ok v
  fails : ∀ failure, result = .error failure ↔ ∃ j elapsed,
    p.Reaches script j ∧ Fails script j ∧ ¬ p.HasRoom script j ∧
      elapsed.toNanos = p.ends script j ∧ failure = .timedOut ⟨operation, elapsed⟩
  now : trace.now = ⟨started.sinceStart + p.ends script last⟩
  made : trace.made = last + 1
  deeds : trace.deeds =
    ((List.range last).flatMap fun i =>
      [.attempt (p.beginning script started i), .pause p.interval]) ++
    [.attempt (p.beginning script started last)]
  few : last ≤ p.timeout.toNanos / p.interval.toNanos
  early : ∀ j ≤ last, p.begins script j ≤ p.timeout.toNanos
  full : (∀ j, Fails script j ∧ (script j).1.toNanos = 0) →
    last = p.timeout.toNanos / p.interval.toNanos

theorem StopsAt.keepsBudget (stops : p.StopsAt script n) (inRange : p.InRange script started)
    (waits : 0 < p.interval.toNanos) :
    p.KeepsBudget operation script started n (p.resultAt script operation n)
      (p.behind script started n) where
  succeeds := by
    intro v
    rw [resultAt_eq_ok_iff]
    constructor
    · intro succeeds
      exact ⟨n, stops.1, succeeds⟩
    · rintro ⟨k, reached, succeeds⟩
      rwa [stops.unique (stopsAt_of_ok reached succeeds)]
  fails := by
    intro failure
    rw [resultAt_eq_error_iff]
    constructor
    · rintro ⟨failed, rfl⟩
      have spent := toNanos_ofNanos_ends (inRange.wakeUp n stops.1 failed)
      exact ⟨n, _, stops.1, failed, fun room => stops.2 ⟨failed, room⟩, spent, rfl⟩
    · rintro ⟨j, elapsed, reached, failed, full, spent, rfl⟩
      rw [stops.unique (stopsAt_of_full reached full), ← spent, Duration.ofNanos_toNanos]
      exact ⟨failed, rfl⟩
  now := rfl
  made := rfl
  deeds := rfl
  few := stops.1.le_div waits
  early := by
    intro j le
    exact (stops.1.mono le).begins_le
  full := stops.eq_div waits

/-- A poll always comes to an end, and keeps to its budget, whatever its attempts come to and how
long they take. The pauses take time, and the poll stays in range. That is to say that the clock
can show the deadline, and behind each failed attempt the time to wake up at; and that no more
attempts are reached than the counter of 32 bits can count (`counted`), which is no limit of the
clock but one of the poll itself. -/
theorem poll_uses_its_budget (p : PollPolicy) (operation : String) (script : Script ε α)
    (started : Instant) (waits : 0 < p.interval.toNanos) (inRange : p.InRange script started) :
    let polled := p.scripted operation script { now := started }
    ∃ last, p.KeepsBudget operation script started last polled.1 polled.2 := by
  obtain ⟨last, stops, ends⟩ := exists_scripted operation inRange
  rw [ends]
  exact ⟨last, stops.keepsBudget inRange waits⟩

/-- A poll stays in range when its attempts are short and the clock is not near its end. -/
theorem inRange_of_short (most : Nat) (short : ∀ n, (script n).1.toNanos ≤ most)
    (waits : 0 < p.interval.toNanos)
    (shown : started.sinceStart + (p.timeout.toNanos + most) + p.interval.toNanos < Instant.range)
    (countable : p.timeout.toNanos / p.interval.toNanos < maxAttempts) :
    p.InRange script started where
  deadline := by
    have front : started.sinceStart + p.timeout.toNanos ≤
        started.sinceStart + (p.timeout.toNanos + most) + p.interval.toNanos := by
      clear shown
      omega
    exact Nat.lt_of_le_of_lt front shown
  wakeUp := by
    intro n reached _
    have ended : p.ends script n ≤ p.timeout.toNanos + most :=
      Nat.add_le_add reached.begins_le (short n)
    refine Nat.lt_of_le_of_lt ?_ shown
    exact Nat.add_le_add_right (Nat.add_le_add_left ended _) _
  counted := by
    intro n reached
    exact Nat.lt_of_le_of_lt (reached.le_div waits) countable

/-- Two attempts of a second each fail, and the third one succeeds. -/
theorem third_attempt_succeeds :
    let script : Script Unit Nat := fun n =>
      (Duration.ofSeconds 1, if n < 2 then .error () else .ok n)
    (0 < standard.interval.toNanos ∧ standard.InRange script Instant.start) ∧
      (standard.scripted "operation" script { now := Instant.start }).1 = .ok 2 := by
  intro script
  have waits : 0 < standard.interval.toNanos := by decide
  have inRange : standard.InRange script Instant.start := by
    apply inRange_of_short (Duration.ofSeconds 1).toNanos
    · exact fun _ => Nat.le_refl _
    · exact waits
    · decide
    · decide
  have reached : standard.Reaches script 2 := by
    have first : standard.Reaches script 0 := reaches_zero
    have second : standard.Reaches script 1 := first.succ ⟨(), rfl⟩ (show _ ≤ _ by decide)
    exact second.succ ⟨(), rfl⟩ (show _ ≤ _ by decide)
  obtain ⟨last, keeps⟩ :=
    poll_uses_its_budget standard "operation" script Instant.start waits inRange
  exact ⟨⟨waits, inRange⟩, (keeps.succeeds 2).mpr ⟨2, reached, rfl⟩⟩

end

end Enrollment.PollPolicy
