import Enrollment.Time.Duration

/-!
# Retrying one request

A retry policy says how often a request is attempted, how long one attempt may take
and how long to wait before the next. An exponential backoff doubles its unit with
every attempt, up to `2 ^ 31` times the unit, and saturates at the longest duration.
-/

namespace Enrollment

/-- The pauses between the attempts of one request. -/
inductive Backoff where
  | exponential (unit : Duration)
  | fixed (pause : Duration)
  deriving DecidableEq, Repr

namespace Backoff

/-- The doublings that an exponential backoff makes at most. -/
def maxDoublings : Nat := 31

/-- The pause after attempt number `attempt`, counted from zero, has failed. -/
def delay (b : Backoff) (attempt : Nat) : Duration :=
  match b with
  | exponential unit => unit.scale (Nat.pow 2 (min attempt maxDoublings))
  | fixed pause => pause

/-- One second before the second attempt, and twice as long before each further one. -/
def standard : Backoff := exponential (Duration.ofSeconds 1)

instance : Inhabited Backoff := ⟨standard⟩

@[simp] theorem delay_fixed (d : Duration) (n : Nat) : (fixed d).delay n = d := rfl

theorem delay_exponential (unit : Duration) (n : Nat) :
    (exponential unit).delay n = unit.scale (Nat.pow 2 (min n maxDoublings)) := rfl

end Backoff

/-- How a single request is retried. `maxAttempts` counts the first attempt too. -/
structure RetryPolicy where
  maxAttempts : Nat
  attemptTimeout : Duration
  backoff : Backoff
  deriving DecidableEq, Repr

namespace RetryPolicy

def standardTimeout : Duration := Duration.ofSeconds (3 * 60)

/-- Up to `n` attempts with the standard pauses. -/
def withAttempts (n : Nat) : RetryPolicy := ⟨n, standardTimeout, Backoff.standard⟩

/-- One attempt and no retry. -/
def single : RetryPolicy := withAttempts 1

instance : Inhabited RetryPolicy := ⟨single⟩

/-- The attempts that are really made at most: zero counts as one. -/
def attempts (p : RetryPolicy) : Nat := max p.maxAttempts 1

theorem attempts_pos (p : RetryPolicy) : 0 < p.attempts := by
  unfold attempts
  omega

@[simp] theorem attempts_withAttempts (n : Nat) : (withAttempts n).attempts = max n 1 := rfl

end RetryPolicy

end Enrollment
