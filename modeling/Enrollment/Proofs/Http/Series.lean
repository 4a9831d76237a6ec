import Enrollment.Http.Transport

/-!
# What a series of attempts leaves behind

`Series` says which events a series of attempts may add to a wire, together with the outcome
of the series: exchanges of one and the same request, with the pauses of the policy between
them, of which all but the last one failed. `attempts_series` says that nothing else happens.
The outcome is therefore decided by the last exchange, and a reply is only handed on when it
has been received completely.
-/

namespace Enrollment.Http

/-! ## One attempt after another -/

namespace Network

variable {σ : Type} {net : Network σ} {policy : RetryPolicy} {order : Order} {wire : Wire σ}
variable {left made : Nat} {outcome : Outcome}

theorem pause_events (net : Network σ) (time : Duration) (wire : Wire σ) :
    (net.pause time wire).2.events = wire.events ++ [.pause time] := rfl

variable [Url.Idna]

theorem retry_zero : net.retry policy order 0 made outcome wire = (outcome, wire) := rfl

theorem retry_succeeded (settled : succeeded outcome = true) :
    net.retry policy order left made outcome wire = (outcome, wire) := by
  cases left with
  | zero => exact retry_zero
  | succ left =>
      rw [retry, if_pos settled]
      rfl

theorem retry_succ (failed : ¬ succeeded outcome = true) :
    net.retry policy order (left + 1) made outcome wire =
      let next := net.attempt policy.attemptTimeout order
        (net.pause (policy.backoff.delay (made - 1)) wire).2
      net.retry policy order left (made + 1) next.1 next.2 := by
  rw [retry, if_neg failed]
  rfl

theorem attempts_eq : net.attempts policy order wire =
    net.retry policy order (policy.attempts - 1) 1
      (net.attempt policy.attemptTimeout order wire).1
      (net.attempt policy.attemptTimeout order wire).2 := rfl

end Network

variable [Url.Idna]

/-- The events of one attempt, and its outcome. -/
inductive Attempt (order : Order) : List Event → Network.Outcome → Prop
  | unsendable {e : NetworkError} (refused : order.request? = .error e) :
      Attempt order [] (.error e)
  | sent {request : Request} (arrival : Arrival) (sendable : order.request? = .ok request) :
      Attempt order [.exchange request arrival] (Network.outcomeOf request arrival)

/-- The events of the attempts from the one at hand on, and their outcome. `made` attempts
have been made with this one, and `left` may follow it. -/
inductive Series (policy : RetryPolicy) (order : Order) :
    Nat → Nat → List Event → Network.Outcome → Prop
  | last {left made : Nat} {log : List Event} {outcome : Network.Outcome}
      (attempt : Attempt order log outcome)
      (settled : left = 0 ∨ Network.succeeded outcome = true) :
      Series policy order left made log outcome
  | again {left made : Nat} {log rest : List Event} {first outcome : Network.Outcome}
      (attempt : Attempt order log first) (failed : Network.succeeded first = false)
      (more : Series policy order left (made + 1) rest outcome) :
      Series policy order (left + 1) made
        (log ++ .pause (policy.backoff.delay (made - 1)) :: rest) outcome

section

variable {σ : Type} {policy : RetryPolicy} {order : Order} {left made : Nat}
variable {log : List Event} {outcome : Network.Outcome}

theorem attempt_events (net : Network σ) (limit : Duration) (order : Order) (wire : Wire σ) :
    ∃ log, (net.attempt limit order wire).2.events = wire.events ++ log ∧
      Attempt order log (net.attempt limit order wire).1 := by
  cases found : order.request? with
  | error e =>
      refine ⟨[], ?_, ?_⟩
      · simp only [Network.attempt, found, List.append_nil]
      · simpa only [Network.attempt, found] using Attempt.unsendable found
  | ok request =>
      refine ⟨[.exchange request ((net.server request wire.server).1.within limit)], ?_, ?_⟩
      · simp only [Network.attempt, found]
      · simpa only [Network.attempt, found] using Attempt.sent _ found

/-- The attempts that follow one that has been made already. -/
theorem retry_series (net : Network σ) (policy : RetryPolicy) (order : Order) (left made : Nat)
    (wire : Wire σ) (attempt : Attempt order log outcome) :
    ∃ rest, (net.retry policy order left made outcome wire).2.events = wire.events ++ rest ∧
      Series policy order left made (log ++ rest)
        (net.retry policy order left made outcome wire).1 := by
  induction left generalizing made wire log outcome with
  | zero =>
      refine ⟨[], ?_, ?_⟩
      · rw [Network.retry_zero, List.append_nil]
      · rw [Network.retry_zero, List.append_nil]
        exact .last attempt (.inl rfl)
  | succ left ih =>
      cases settled : Network.succeeded outcome with
      | true =>
          refine ⟨[], ?_, ?_⟩
          · rw [Network.retry_succeeded settled, List.append_nil]
          · rw [Network.retry_succeeded settled, List.append_nil]
            exact .last attempt (.inr settled)
      | false =>
          have unsettled : ¬ Network.succeeded outcome = true := by simp [settled]
          obtain ⟨next, events, attempted⟩ := attempt_events net policy.attemptTimeout order
            (net.pause (policy.backoff.delay (made - 1)) wire).2
          obtain ⟨rest, behind, series⟩ := ih (made + 1) _ attempted
          rw [Network.retry_succ unsettled]
          dsimp only
          refine ⟨.pause (policy.backoff.delay (made - 1)) :: (next ++ rest), ?_, ?_⟩
          · rw [behind, events, Network.pause_events, List.append_assoc, List.append_assoc,
              List.singleton_append]
          · exact .again attempt settled series

/-- What a series of attempts adds to the wire. -/
theorem attempts_series (net : Network σ) (policy : RetryPolicy) (order : Order)
    (wire : Wire σ) :
    ∃ log, (net.attempts policy order wire).2.events = wire.events ++ log ∧
      Series policy order (policy.attempts - 1) 1 log (net.attempts policy order wire).1 := by
  obtain ⟨first, events, attempted⟩ := attempt_events net policy.attemptTimeout order wire
  obtain ⟨rest, behind, series⟩ :=
    retry_series net policy order (policy.attempts - 1) 1
      (net.attempt policy.attemptTimeout order wire).2 attempted
  rw [Network.attempts_eq]
  refine ⟨first ++ rest, ?_, series⟩
  rw [behind, events, List.append_assoc]

/-! ## What can be read off a series -/

theorem Attempt.request_eq (h : Attempt order log outcome) {request : Request}
    {arrival : Arrival} (member : .exchange request arrival ∈ log) :
    order.request? = .ok request := by
  cases h with
  | unsendable => exact absurd member List.not_mem_nil
  | sent _ sendable =>
      cases List.mem_singleton.mp member
      exact sendable

/-- Every exchange of a series carries the one request that the order stands for. -/
theorem Series.request_eq (h : Series policy order left made log outcome) {request : Request}
    {arrival : Arrival} (member : .exchange request arrival ∈ log) :
    order.request? = .ok request := by
  induction h with
  | last attempt => exact attempt.request_eq member
  | again attempt _ _ ih =>
      rcases List.mem_append.mp member with member | member
      · exact attempt.request_eq member
      · rcases List.mem_cons.mp member with pause | member
        · cases pause
        · exact ih member

theorem Attempt.replied {reply : Reply} (h : Attempt order log (.ok reply)) :
    ∃ request, log = [.exchange request (.reply reply)] := by
  generalize result : Except.ok reply = outcome at h
  cases h with
  | unsendable => cases result
  | @sent request arrival _ =>
      cases arrival <;> cases result
      exact ⟨request, rfl⟩

/-- The reply that a series hands on has come back, complete, for its last request. -/
theorem Series.replied {reply : Reply} (h : Series policy order left made log (.ok reply)) :
    ∃ front request, log = front ++ [.exchange request (.reply reply)] := by
  generalize result : Except.ok reply = outcome at h
  induction h with
  | last attempt =>
      subst result
      obtain ⟨request, rfl⟩ := attempt.replied
      exact ⟨[], request, rfl⟩
  | @again _ _ log _ _ _ _ _ _ ih =>
      obtain ⟨front, request, rfl⟩ := ih result
      exact ⟨log ++ .pause _ :: front, request, by rw [List.append_assoc, List.cons_append]⟩

/-! ## Series of few attempts -/

/-- An order is attempted once at most, and there is no pause. -/
inductive Once (order : Order) : List Event → Prop
  | unsent : Once order []
  | sent {request : Request} (arrival : Arrival) (ordered : order.request? = .ok request) :
      Once order [.exchange request arrival]

/-- One and the same order is attempted three times at most, again only after a failure: one
second after the first one, and two seconds after the second one. -/
inductive Thrice (order : Order) : List Event → Prop
  | never : Thrice order []
  | once {log : List Event} {outcome : Network.Outcome} (attempt : Attempt order log outcome) :
      Thrice order log
  | twice {log log' : List Event} {outcome outcome' : Network.Outcome}
      (first : Attempt order log outcome) (failed : Network.succeeded outcome = false)
      (second : Attempt order log' outcome') :
      Thrice order (log ++ .pause (.ofSeconds 1) :: log')
  | thrice {log log' log'' : List Event} {outcome outcome' outcome'' : Network.Outcome}
      (first : Attempt order log outcome) (failed : Network.succeeded outcome = false)
      (second : Attempt order log' outcome') (failed' : Network.succeeded outcome' = false)
      (third : Attempt order log'' outcome'') :
      Thrice order (log ++ .pause (.ofSeconds 1) :: (log' ++ .pause (.ofSeconds 2) :: log''))

theorem Attempt.once (h : Attempt order log outcome) : Once order log := by
  cases h with
  | unsendable => exact .unsent
  | sent arrival ordered => exact .sent arrival ordered

/-- A series without attempts to follow the first one. -/
theorem Series.once (h : Series policy order 0 made log outcome) : Once order log := by
  cases h with
  | last attempt => exact attempt.once

/-- A series of three attempts with the standard pauses. -/
theorem Series.thrice (h : Series (.withAttempts 3) order 2 1 log outcome) :
    Thrice order log := by
  cases h with
  | last first => exact .once first
  | again first failed more =>
      cases more with
      | last second => exact .twice first failed second
      | again second failed' more =>
          cases more with
          | last third => exact .thrice first failed second failed' third

theorem Once.request_eq (h : Once order log) {request : Request} {arrival : Arrival}
    (member : .exchange request arrival ∈ log) : order.request? = .ok request := by
  cases h with
  | unsent => exact absurd member List.not_mem_nil
  | sent _ ordered =>
      cases List.mem_singleton.mp member
      exact ordered

theorem Thrice.request_eq (h : Thrice order log) {request : Request} {arrival : Arrival}
    (member : .exchange request arrival ∈ log) : order.request? = .ok request := by
  cases h with
  | never => exact absurd member List.not_mem_nil
  | once attempt => exact attempt.request_eq member
  | twice first _ second =>
      simp only [List.mem_append, List.mem_cons, reduceCtorEq, false_or] at member
      rcases member with member | member
      · exact first.request_eq member
      · exact second.request_eq member
  | thrice first _ second _ third =>
      simp only [List.mem_append, List.mem_cons, reduceCtorEq, false_or] at member
      rcases member with member | member | member
      · exact first.request_eq member
      · exact second.request_eq member
      · exact third.request_eq member

end

/-- What cannot be requested is never replied to. -/
theorem Series.refused {policy : RetryPolicy} {order : Order} {left made : Nat} {log : List Event}
    {outcome : Network.Outcome} {cause : NetworkError}
    (h : Series policy order left made log outcome) (refused : order.request? = .error cause) :
    outcome = .error cause := by
  induction h with
  | last attempt =>
      cases attempt with
      | unsendable same =>
          rw [refused] at same
          cases same
          rfl
      | sent _ sendable =>
          rw [refused] at sendable
          cases sendable
  | again _ _ _ ih => exact ih

/-! ## Attempts that all come to the same -/

namespace Network

variable {σ : Type} {net : Network σ} {policy : RetryPolicy} {order : Order} {request : Request}
variable {reply : Reply} {wire : Wire σ} {t : σ}

/-- The outcome of the attempts decides. -/
theorem execute_eq (net : Network σ) (policy : RetryPolicy) (order : Order) (wire : Wire σ) :
    net.execute policy order wire =
      let tried := net.attempts policy order wire
      (tried.1.mapError (.noReply order.url policy.attempts), tried.2) := by
  simp only [execute, bind, StateT.bind]
  generalize net.attempts policy order wire = tried
  obtain ⟨outcome, wire'⟩ := tried
  cases outcome <;> rfl

theorem attempt_replied (ordered : order.request? = .ok request)
    (replied : net.server request wire.server = ({ arrival := .reply reply }, t))
    {limit : Duration} (patient : Duration.zero.toNanos < limit.toNanos) :
    (net.attempt limit order wire).1 = .ok reply ∧
      (net.attempt limit order wire).2.server = t := by
  have arrived : Delivery.within limit { arrival := .reply reply } = .reply reply := by
    simp only [Delivery.within, if_pos patient]
  simp only [attempt, ordered, replied, arrived, outcomeOf, and_self]

/-- The server is given the request, and that comes first. -/
theorem exists_attempts_begin (ordered : order.request? = .ok request) (net : Network σ)
    (policy : RetryPolicy) (wire : Wire σ) :
    ∃ log, (net.attempts policy order wire).2.events = wire.events ++
      .exchange request ((net.server request wire.server).1.within policy.attemptTimeout) ::
        log := by
  have first : (net.attempt policy.attemptTimeout order wire).2.events = wire.events ++
      [.exchange request ((net.server request wire.server).1.within policy.attemptTimeout)] := by
    simp only [attempt, ordered]
  obtain ⟨_, -, attempted⟩ := attempt_events net policy.attemptTimeout order wire
  obtain ⟨rest, behind, -⟩ := retry_series net policy order (policy.attempts - 1) 1
    (net.attempt policy.attemptTimeout order wire).2 attempted
  refine ⟨rest, ?_⟩
  rw [attempts_eq, behind, first, List.append_assoc, List.singleton_append]

/-- A server that is left as it is replies in the same way to every further attempt. -/
theorem retry_replied (ordered : order.request? = .ok request)
    (replied : net.server request t = ({ arrival := .reply reply }, t))
    (patient : Duration.zero.toNanos < policy.attemptTimeout.toNanos) (left made : Nat)
    (here : wire.server = t) :
    (net.retry policy order left made (.ok reply) wire).1 = .ok reply ∧
      (net.retry policy order left made (.ok reply) wire).2.server = t := by
  induction left generalizing made wire with
  | zero =>
      rw [retry_zero]
      exact ⟨rfl, here⟩
  | succ left ih =>
      by_cases settled : succeeded (.ok reply) = true
      · rw [retry_succeeded settled]
        exact ⟨rfl, here⟩
      · let paused := (net.pause (policy.backoff.delay (made - 1)) wire).2
        have reached : net.server request paused.server = ({ arrival := .reply reply }, t) := by
          rw [show paused.server = t from here]
          exact replied
        obtain ⟨again, kept⟩ := attempt_replied ordered reached patient
        rw [retry_succ settled]
        dsimp only
        rw [again]
        exact ih (made + 1) kept

/-- A reply is handed on when it is a success, when there is one attempt only, and when the server
is left as it is. -/
theorem execute_replied (ordered : order.request? = .ok request)
    (replied : net.server request wire.server = ({ arrival := .reply reply }, t))
    (patient : Duration.zero.toNanos < policy.attemptTimeout.toNanos)
    (settled : reply.status.isSuccess = true ∨ policy.attempts = 1 ∨ t = wire.server) :
    (net.execute policy order wire).1 = .ok reply ∧
      (net.execute policy order wire).2.server = t := by
  obtain ⟨first, left⟩ := attempt_replied ordered replied patient
  have ends : (net.attempts policy order wire).1 = .ok reply ∧
      (net.attempts policy order wire).2.server = t := by
    rw [attempts_eq, first]
    rcases settled with success | single | same
    · rw [retry_succeeded (show succeeded (.ok reply) = true from success)]
      exact ⟨rfl, left⟩
    · rw [single, retry_zero]
      exact ⟨rfl, left⟩
    · have steady : net.server request t = ({ arrival := .reply reply }, t) := by
        rw [same, replied, same]
      exact retry_replied ordered steady patient _ 1 left
  rw [execute_eq]
  dsimp only
  rw [ends.1]
  exact ⟨rfl, ends.2⟩

theorem execute_refused (net : Network σ) (policy : RetryPolicy) (wire : Wire σ)
    {cause : NetworkError} (refused : order.request? = .error cause) :
    (net.execute policy order wire).1 = .error (.noReply order.url policy.attempts cause) := by
  obtain ⟨log, -, series⟩ := attempts_series net policy order wire
  rw [execute_eq]
  dsimp only
  rw [series.refused refused]
  rfl

end Network

end Enrollment.Http
