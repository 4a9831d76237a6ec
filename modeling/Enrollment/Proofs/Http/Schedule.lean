import Enrollment.Proofs.Http.Series
import Enrollment.Proofs.Inventory.Traffic

/-!
# The schedule of a request

The network is given here by what it delivers, one delivery after the other, whatever is
requested. Which deliveries an order takes is then a matter of its policy alone: attempts are
made up to the first one that succeeds, or up to the last one that is allowed, with the pauses
of the backoff between them. The attempt that ends the series decides what is handed on.
-/

namespace Enrollment.Http

/-- The server that makes these deliveries one after the other, whatever it is sent. Its state
counts them. -/
def Server.sequence (deliveries : Nat → Delivery) : Server Nat := fun _ n => (deliveries n, n + 1)

/-- The network that makes these deliveries. -/
abbrev Network.delivering (deliveries : Nat → Delivery) (pacing : Pacing) : Network Nat :=
  ⟨.sequence deliveries, pacing⟩

/-- The pauses of a log. -/
def waits (log : List Event) : List Duration :=
  log.filterMap fun
    | .exchange _ _ => none
    | .pause time => some time

section

variable {log xs ys : List Event}

@[simp] theorem waits_nil : waits [] = [] := rfl

@[simp] theorem waits_exchange (request : Request) (arrival : Arrival) :
    waits (.exchange request arrival :: log) = waits log := rfl

@[simp] theorem waits_pause (time : Duration) :
    waits (.pause time :: log) = time :: waits log := rfl

@[simp] theorem waits_append : waits (xs ++ ys) = waits xs ++ waits ys := List.filterMap_append

theorem Wire.pauses_eq {σ : Type} (wire : Wire σ) : wire.pauses = waits wire.events := rfl

end

variable [Url.Idna]

namespace Order

/-- What an attempt comes to in which `arrival` arrives. Without a request nothing can. -/
def outcome (order : Order) (arrival : Arrival) : Network.Outcome :=
  order.request?.bind fun request => Network.outcomeOf request arrival

/-- The events of an attempt in which `arrival` arrives. -/
def exchanged (order : Order) (arrival : Arrival) : List Event :=
  match order.request? with
  | .error _ => []
  | .ok request => [.exchange request arrival]

variable {order : Order} {request : Request} {arrival : Arrival} {e : NetworkError}

theorem outcome_of_request? (ordered : order.request? = .ok request) :
    order.outcome arrival = Network.outcomeOf request arrival := by
  rw [outcome, ordered]
  rfl

theorem outcome_of_refused (refused : order.request? = .error e) :
    order.outcome arrival = .error e := by
  rw [outcome, refused]
  rfl

theorem exchanged_of_request? (ordered : order.request? = .ok request) :
    order.exchanged arrival = [.exchange request arrival] := by
  rw [exchanged, ordered]

theorem exchanged_of_refused (refused : order.request? = .error e) :
    order.exchanged arrival = [] := by
  rw [exchanged, refused]

@[simp] theorem waits_exchanged : waits (order.exchanged arrival) = [] := by
  cases ordered : order.request? with
  | error e => rw [exchanged_of_refused ordered, waits_nil]
  | ok request => rw [exchanged_of_request? ordered, waits_exchange, waits_nil]

theorem requests_exchanged (ordered : order.request? = .ok request) :
    requests (order.exchanged arrival) = [request] := by
  rw [exchanged_of_request? ordered, requests_exchange, requests_nil]

/-- A reply is the outcome of an attempt exactly when a request was sent and the reply came back
complete. -/
theorem outcome_eq_ok_iff {reply : Reply} :
    order.outcome arrival = .ok reply ↔
      (∃ request, order.request? = .ok request) ∧ arrival = .reply reply := by
  cases ordered : order.request? with
  | error e => simp [outcome_of_refused ordered]
  | ok request =>
      rw [outcome_of_request? ordered]
      cases arrival <;> simp [Network.outcomeOf]

end Order

end Enrollment.Http

/-! ## What a policy asks for -/

namespace Enrollment.RetryPolicy

open Http

/-- How many attempts are made when attempt number `n`, counted from zero, would have the outcome
`outcome n`: up to the first success among those that are allowed, and all of them if there is
none. -/
def made (policy : RetryPolicy) (outcome : Nat → Network.Outcome) : Nat :=
  ((List.range policy.attempts).find? fun n => Network.succeeded (outcome n)).elim
    policy.attempts (· + 1)

/-- The pauses between `made` attempts. -/
def pauses (policy : RetryPolicy) (made : Nat) : List Duration :=
  (List.range (made - 1)).map policy.backoff.delay

/-- The events of `made` attempts: the first one, and each further one behind its pause. -/
def course (policy : RetryPolicy) (attempt : Nat → List Event) (made : Nat) : List Event :=
  attempt 0 ++ (List.range (made - 1)).flatMap fun n =>
    .pause (policy.backoff.delay n) :: attempt (n + 1)

variable {policy : RetryPolicy} {outcome : Nat → Network.Outcome} {last made : Nat}
variable {attempt : Nat → List Event}

/-- There is one pause between two attempts, and no other. -/
theorem waits_course (quiet : ∀ n, waits (attempt n) = []) :
    waits (policy.course attempt made) = policy.pauses made := by
  rw [course, pauses, waits_append, quiet, List.nil_append]
  induction List.range (made - 1) with
  | nil => rfl
  | cons n rest ih =>
      rw [List.flatMap_cons, List.cons_append, waits_pause, waits_append, quiet, List.nil_append,
        ih, List.map_cons]

/-- Every attempt sends the same request. -/
theorem requests_course {request : Request} (one : ∀ n, requests (attempt n) = [request])
    (some_made : 1 ≤ made) :
    requests (policy.course attempt made) = List.replicate made request := by
  have further : ∀ ns : List Nat,
      requests (ns.flatMap fun n => .pause (policy.backoff.delay n) :: attempt (n + 1)) =
        List.replicate ns.length request := by
    intro ns
    induction ns with
    | nil => rfl
    | cons n ns ih =>
        rw [List.flatMap_cons, List.cons_append, requests_pause, requests_append, one, ih]
        rfl
  obtain ⟨n, rfl⟩ := Nat.exists_eq_add_of_le' some_made
  rw [course, requests_append, one, further, List.length_range]
  rfl

/-- The number of attempts is known once one is found that ends the series, and none before it
does. -/
theorem made_eq (allowed : last < policy.attempts)
    (failed : ∀ n < last, Network.succeeded (outcome n) = false)
    (settled : last + 1 = policy.attempts ∨ Network.succeeded (outcome last) = true) :
    policy.made outcome = last + 1 := by
  by_cases success : Network.succeeded (outcome last) = true
  · have found : (List.range policy.attempts).find? (fun n => Network.succeeded (outcome n)) =
        some last := by
      rw [List.find?_range_eq_some]
      refine ⟨success, List.mem_range.mpr allowed, ?_⟩
      intro n earlier
      simp [failed n earlier]
    rw [made, found]
    rfl
  · have last_allowed : last + 1 = policy.attempts := settled.resolve_right success
    have missing : (List.range policy.attempts).find? (fun n => Network.succeeded (outcome n)) =
        none := by
      rw [List.find?_range_eq_none]
      intro n within
      by_cases same : n = last
      · simpa [same] using success
      · simp [failed n (by omega)]
    rw [made, missing]
    exact last_allowed.symm

/-- At least one attempt is made, and no more than are allowed. -/
theorem made_bounds (policy : RetryPolicy) (outcome : Nat → Network.Outcome) :
    1 ≤ policy.made outcome ∧ policy.made outcome ≤ policy.attempts := by
  rw [made]
  cases found : (List.range policy.attempts).find? fun n => Network.succeeded (outcome n) with
  | none => exact ⟨policy.attempts_pos, Nat.le_refl _⟩
  | some n =>
      have within := List.mem_range.mp (List.mem_of_find?_eq_some found)
      exact ⟨Nat.succ_pos n, within⟩

/-- A failure, a success, and no further attempt. -/
example : (withAttempts 3).made
    (fun n => if n = 1 then .ok ⟨.ok, []⟩ else .error .brokenBody) = 2 := by
  decide

end Enrollment.RetryPolicy

namespace Enrollment.Http.Network

/-! ## Attempts on a sequence of deliveries -/

section

variable (deliveries : Nat → Delivery) (pacing : Pacing) {policy : RetryPolicy} {order : Order}
variable {wire : Wire Nat} {start n : Nat}

/-- The server has made the deliveries up to this one, provided that the order can be requested:
for one that cannot, it is never asked. -/
def Reached [Url.Idna] (order : Order) (wire : Wire Nat) (position : Nat) : Prop :=
  ∀ request, order.request? = .ok request → wire.server = position

/-- What arrives in the attempt with the given number. -/
def arrivalAt (deliveries : Nat → Delivery) (limit : Duration) (start n : Nat) : Arrival :=
  (deliveries (start + n)).within limit

/-- One attempt takes one delivery. -/
theorem attempt_sequence [Url.Idna] (limit : Duration) (reached : Reached order wire (start + n)) :
    let arrival := arrivalAt deliveries limit start n
    let attempted := attempt (delivering deliveries pacing) limit order wire
    attempted.1 = order.outcome arrival ∧
      attempted.2.events = wire.events ++ order.exchanged arrival ∧
      Reached order attempted.2 (start + (n + 1)) := by
  intro arrival attempted
  cases ordered : order.request? with
  | error e =>
      have stays : attempted = (.error e, wire) := by
        simp only [attempted, attempt, ordered]
      rw [stays, Order.outcome_of_refused ordered, Order.exchanged_of_refused ordered]
      refine ⟨rfl, (List.append_nil _).symm, ?_⟩
      intro request sendable
      cases ordered.symm.trans sendable
  | ok request =>
      have here : wire.server = start + n := reached request ordered
      rw [Order.outcome_of_request? ordered, Order.exchanged_of_request? ordered]
      simp only [attempted, attempt, ordered, Server.sequence, here]
      refine ⟨rfl, rfl, ?_⟩
      intro _ _
      exact Nat.add_assoc start n 1

/-- The attempts that follow attempt number `n`, counted from zero. -/
theorem retry_sequence [Url.Idna] (left : Nat) (reached : Reached order wire (start + (n + 1))) :
    let arrival := arrivalAt deliveries policy.attemptTimeout start
    let outcome := fun i => order.outcome (arrival i)
    let retried := retry (delivering deliveries pacing) policy order left (n + 1) (outcome n) wire
    ∃ more ≤ left, (∀ i < more, succeeded (outcome (n + i)) = false) ∧
      (more = left ∨ succeeded (outcome (n + more)) = true) ∧
      retried.1 = outcome (n + more) ∧
      retried.2.events = wire.events ++ (List.range' n more).flatMap (fun i =>
        .pause (policy.backoff.delay i) :: order.exchanged (arrival (i + 1))) ∧
      Reached order retried.2 (start + (n + more + 1)) := by
  intro arrival outcome
  induction left generalizing n wire with
  | zero =>
      refine ⟨0, Nat.le_refl 0, ?_, .inl rfl, rfl, (List.append_nil _).symm, reached⟩
      intro i never
      exact absurd never (Nat.not_lt_zero i)
  | succ left ih =>
      by_cases settled : succeeded (outcome n) = true
      · rw [retry_succeeded settled]
        refine ⟨0, Nat.zero_le _, ?_, .inr settled, rfl, (List.append_nil _).symm, reached⟩
        intro i never
        exact absurd never (Nat.not_lt_zero i)
      · -- The pause leaves the server where it is, and the next attempt takes the next delivery.
        let net := delivering deliveries pacing
        let paused := (net.pause (policy.backoff.delay n) wire).2
        have waiting : Reached order paused (start + (n + 1)) := reached
        obtain ⟨result, events, next⟩ :=
          attempt_sequence deliveries pacing policy.attemptTimeout waiting
        obtain ⟨more, within, failed, ends, last, behind, there⟩ := ih next
        have shift : ∀ i, n + 1 + i = n + (i + 1) := Nat.succ_add_eq_add_succ n
        simp only [shift] at failed ends last there
        rw [retry_succ settled]
        dsimp only
        rw [Nat.add_sub_cancel, result]
        refine ⟨more + 1, Nat.succ_le_succ within, ?_, ?_, last, ?_, there⟩
        · intro i before
          cases i with
          | zero => simpa using settled
          | succ i => exact failed i (Nat.lt_of_succ_lt_succ before)
        · exact ends.imp_left (congrArg (· + 1))
        · rw [behind, events]
          show wire.events ++ [.pause (policy.backoff.delay n)] ++ order.exchanged (arrival (n + 1))
            ++ _ = _
          rw [List.range'_succ, List.flatMap_cons]
          simp only [List.append_assoc, List.cons_append, List.nil_append]

theorem mapError_eq_ok_iff {ε ε' α : Type} {x : Except ε α} {f : ε → ε'} {a : α} :
    x.mapError f = .ok a ↔ x = .ok a := by
  cases x <;> constructor <;> rintro ⟨⟩ <;> rfl

/-- The attempts for an order: as many as the policy says, of which the last one decides. -/
theorem attempts_sequence [Url.Idna] (policy : RetryPolicy) (order : Order) (wire : Wire Nat) :
    let arrival := arrivalAt deliveries policy.attemptTimeout wire.server
    let outcome := fun n => order.outcome (arrival n)
    let made := policy.made outcome
    let tried := attempts (delivering deliveries pacing) policy order wire
    tried.1 = outcome (made - 1) ∧
      tried.2.events = wire.events ++ policy.course (fun n => order.exchanged (arrival n)) made ∧
      Reached order tried.2 (wire.server + made) := by
  intro arrival outcome made tried
  let net := delivering deliveries pacing
  have begun : Reached order wire (wire.server + 0) := fun _ _ => rfl
  obtain ⟨first, events, next⟩ :=
    attempt_sequence deliveries pacing policy.attemptTimeout begun
  obtain ⟨more, within, failed, ends, last, behind, there⟩ :=
    retry_sequence deliveries pacing (policy.attempts - 1) next
  simp only [Nat.zero_add] at failed ends last behind there
  have allowed := policy.attempts_pos
  have count : made = more + 1 := by
    apply RetryPolicy.made_eq
    · omega
    · exact failed
    · exact ends.imp_left fun all => by omega
  have result : tried = net.retry policy order (policy.attempts - 1) 1 (outcome 0)
      (net.attempt policy.attemptTimeout order wire).2 := by
    show net.attempts policy order wire = _
    rw [attempts_eq, first]
  rw [result, count, Nat.add_sub_cancel]
  refine ⟨last, ?_, there⟩
  rw [behind, events, RetryPolicy.course, List.append_assoc, Nat.add_sub_cancel,
    List.range_eq_range']

/-- A request follows its policy. The attempts made are those up to the first success among the
allowed ones, or all that are allowed; they carry one and the same request, with one pause of the
backoff between two of them, and none in front of the first or behind the last. The last one made
decides: a reply to it is handed on, whatever its status, and any other outcome is reported as its
error, with the URL and the number of attempts that were allowed. -/
theorem execute_follows_policy [Url.Idna] (deliveries : Nat → Delivery) (pacing : Pacing)
    (policy : RetryPolicy) (order : Order) (wire : Wire Nat) :
    let arrival := arrivalAt deliveries policy.attemptTimeout wire.server
    let outcome := fun n => order.outcome (arrival n)
    let made := policy.made outcome
    let executed := execute (delivering deliveries pacing) policy order wire
    executed.1 = (outcome (made - 1)).mapError (.noReply order.url policy.attempts) ∧
      (∀ reply, executed.1 = .ok reply ↔
        (∃ request, order.request? = .ok request) ∧ arrival (made - 1) = .reply reply) ∧
      executed.2.events =
        wire.events ++ policy.course (fun n => order.exchanged (arrival n)) made ∧
      executed.2.pauses = wire.pauses ++ policy.pauses made ∧
      ∀ request, order.request? = .ok request →
        requests executed.2.events = requests wire.events ++ List.replicate made request ∧
        executed.2.server = wire.server + made := by
  intro arrival outcome made executed
  obtain ⟨last, course, there⟩ := attempts_sequence deliveries pacing policy order wire
  have decided : executed.1 =
      (outcome (made - 1)).mapError (.noReply order.url policy.attempts) := by
    show (execute (delivering deliveries pacing) policy order wire).1 = _
    rw [execute_eq]
    dsimp only
    rw [last]
  have after : executed.2 = (attempts (delivering deliveries pacing) policy order wire).2 := by
    show (execute (delivering deliveries pacing) policy order wire).2 = _
    rw [execute_eq]
  rw [← after] at course there
  refine ⟨decided, ?_, course, ?_, ?_⟩
  · intro reply
    rw [decided, mapError_eq_ok_iff]
    exact Order.outcome_eq_ok_iff
  · rw [Wire.pauses_eq, course, waits_append,
      RetryPolicy.waits_course fun n => Order.waits_exchanged]
    rfl
  · intro request ordered
    have some_made := (policy.made_bounds outcome).1
    refine ⟨?_, there request ordered⟩
    rw [course, requests_append,
      RetryPolicy.requests_course (fun n => Order.requests_exchanged ordered) some_made]

end

end Enrollment.Http.Network
