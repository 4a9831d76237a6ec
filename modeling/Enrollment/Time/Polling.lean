import Enrollment.Time.Instant

/-!
# Polling

A poll repeats an operation until it succeeds or until there is no room in the budget
for another pause: after a failed attempt the poll gives up when the clock, moved
forward by one interval, would pass the deadline. The operation therefore always runs
at least once, and an attempt may end after the deadline.

The loop is stated for every monad that can run the attempt, read the clock and pause,
so that the same definition serves a scripted operation and a registration flow. It
has two limits of its own. The deadline and the next wake-up have to be readings of
the clock, and attempts are counted in a 32-bit word; both end the poll with
`PollFailure.outOfRange`.
-/

namespace Enrollment

/-- The budget of a poll and the pause between two attempts. -/
structure PollPolicy where
  timeout : Duration
  interval : Duration
  deriving DecidableEq, Repr

/-- A poll that ran out of time, and how long it had been running by then. -/
structure PollTimeout where
  operation : String
  elapsed : Duration
  deriving DecidableEq, Repr

def PollTimeout.message (t : PollTimeout) : String :=
  s!"timeout after {t.elapsed.brief} waiting for {t.operation}"

/-- Why a poll ended without a value. -/
inductive PollFailure where
  | timedOut (timeout : PollTimeout)
  | outOfRange
  deriving DecidableEq, Repr

namespace PollPolicy

/-- Thirty seconds, with an attempt every three. -/
def standard : PollPolicy := ⟨Duration.ofSeconds 30, Duration.ofSeconds 3⟩

instance : Inhabited PollPolicy := ⟨standard⟩

/-- The attempts that a 32-bit counter can count. -/
def maxAttempts : Nat := Nat.pow 2 32 - 1

/-- What follows an attempt that failed when the clock showed `now`: `none` when the
poll waits for the next attempt, and the reason for giving up otherwise. -/
def verdict (p : PollPolicy) (operation : String) (started deadline now : Instant) :
    Option PollFailure :=
  match now.add? p.interval with
  | none => some .outOfRange
  | some wakeUp =>
    if deadline < wakeUp then some (.timedOut ⟨operation, now.since started⟩) else none

variable {m : Type → Type} [Monad m] {ε α : Type}

/-- The attempts that are left, run one after the other. After one that failed, `verdict`
tells whether the poll gives up; otherwise it waits. -/
def attemptsFrom (verdict : Instant → Option PollFailure) (readClock : m Instant)
    (wait : m Unit) (attempt : m (Except ε α)) : Nat → m (Except PollFailure α)
  | 0 => pure (.error .outOfRange)
  | left + 1 => do
    match ← attempt with
    | .ok value => pure (.ok value)
    | .error _ =>
      match verdict (← readClock) with
      | some failure => pure (.error failure)
      | none =>
        wait
        attemptsFrom verdict readClock wait attempt left

/-- Repeat `attempt` until it succeeds or the budget is spent. -/
def poll (p : PollPolicy) (operation : String) (readClock : m Instant)
    (pause : Duration → m Unit) (attempt : m (Except ε α)) : m (Except PollFailure α) := do
  let started ← readClock
  match started.add? p.timeout with
  | none => pure (.error .outOfRange)
  | some deadline =>
    attemptsFrom (p.verdict operation started deadline) readClock (pause p.interval) attempt
      maxAttempts

end PollPolicy

/-- How a pause is taken. A pause may be noted down, and it may move the clock: not at
all, by exactly the requested time, or as a timer does that wakes on whole
milliseconds. -/
structure Pacing where
  recorded : Bool
  advance : Instant → Duration → Instant

namespace Pacing

/-- Pauses are noted down and move the clock by the requested time. -/
def virtual : Pacing := ⟨true, Instant.advance⟩

/-- Pauses are noted down only. -/
def recording : Pacing := ⟨true, fun now _ => now⟩

/-- The time until a timer that wakes on whole milliseconds has reached `now` plus `d`,
counted from the millisecond that `now` lies in. -/
def timerWait (now : Instant) (d : Duration) : Duration :=
  let millis := Nat.pow 10 6
  let wakeUp := (now.sinceStart + d.toNanos + (millis - 1)) / millis
  Duration.ofMillis (wakeUp - now.sinceStart / millis)

/-- Pauses move the clock as a millisecond timer does, and are not noted down. -/
def timer : Pacing := ⟨false, fun now d => now.advance (timerWait now d)⟩

end Pacing

/-- The clock and the pauses taken so far. -/
structure Timeline where
  now : Instant := Instant.start
  pauses : List Duration := []
  deriving DecidableEq, Repr

namespace Timeline

def pause (pacing : Pacing) (d : Duration) (t : Timeline) : Timeline where
  now := pacing.advance t.now d
  pauses := if pacing.recorded then t.pauses ++ [d] else t.pauses

/-- Time passes without a pause, as while an answer is awaited. -/
def pass (d : Duration) (t : Timeline) : Timeline := { t with now := t.now.advance d }

@[simp] theorem pauses_pass (t : Timeline) (d : Duration) : (t.pass d).pauses = t.pauses := by
  rw [pass]

@[simp] theorem pauses_pause_virtual (t : Timeline) (d : Duration) :
    (t.pause Pacing.virtual d).pauses = t.pauses ++ [d] := by
  simp [pause, Pacing.virtual]

end Timeline

end Enrollment
