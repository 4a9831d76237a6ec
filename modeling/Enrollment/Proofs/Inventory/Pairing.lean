import Mathlib.Data.List.Forall2
import Enrollment.Proofs.Flow.Pairing
import Enrollment.Proofs.Http.Schedule
import Enrollment.Proofs.Inventory.Refusal

/-!
# Two clients side by side

Two clients that are delivered alike stay in step: they send their requests one for one, pause in
the same places, and read the same of what is delivered. Their requests need not be equal, only
related, and be for the same URL; and their deliveries need only be alike as far as they are taken.
What a call has taken is seen from the counters of the two servers, which never go back.
-/

namespace Enrollment

namespace Http

/-! ## What is alike -/

/-- Events of two logs that correspond to each other. What arrives is left open. -/
inductive Event.Alike (Q : Request → Request → Prop) : Event → Event → Prop
  | exchange {request request' : Request} (related : Q request request')
      (arrival arrival' : Arrival) :
      Alike Q (.exchange request arrival) (.exchange request' arrival')
  | pause (time : Duration) : Alike Q (.pause time) (.pause time)

/-- The same arrives twice, but for the replies. -/
inductive Arrival.Alike (S : Reply → Reply → Prop) : Arrival → Arrival → Prop
  | reply {reply reply' : Reply} (related : S reply reply') : Alike S (.reply reply) (.reply reply')
  | brokenBody (status : Status) : Alike S (.brokenBody status) (.brokenBody status)
  | nothing : Alike S .nothing .nothing
  | unconnected : Alike S .unconnected .unconnected

/-- Two deliveries that take the same time. -/
structure Delivery.Alike (S : Reply → Reply → Prop) (d d' : Delivery) : Prop where
  arrival : d.arrival.Alike S d'.arrival
  elapsed : d.elapsed = d'.elapsed

/-- Two orders for the same URL, which are refused alike or come to related requests. -/
structure Order.Alike [Url.Idna] (Q : Request → Request → Prop) (order order' : Order) : Prop where
  url : order.url = order'.url
  requests : Both (fun request request' => Q request request' ∧ request.url = request'.url)
    order.request? order'.request?

/-- Two wires in step: as many deliveries have been made, it is the same time, and the logs
correspond to each other. -/
structure Wire.InStep (Q : Request → Request → Prop) (wire wire' : Wire Nat) : Prop where
  server : wire.server = wire'.server
  now : wire.now = wire'.now
  events : List.Forall₂ (Event.Alike Q) wire.events wire'.events

/-- What holds of all numbers from `m` on, up to but not including `n`. -/
def During (P : Nat → Prop) (m n : Nat) : Prop := ∀ i, m ≤ i → i < n → P i

section

variable {P : Nat → Prop} {m n k : Nat} {Q : Request → Request → Prop} {S : Reply → Reply → Prop}
variable {log log' : List Event}

theorem During.front (h : During P m n) (le : k ≤ n) : During P m k :=
  fun i from_m before => h i from_m (Nat.lt_of_lt_of_le before le)

theorem During.back (h : During P m n) (le : m ≤ k) : During P k n :=
  fun i from_k before => h i (Nat.le_trans le from_k) before

theorem waits_eq_of_alike (h : List.Forall₂ (Event.Alike Q) log log') : waits log = waits log' := by
  induction h with
  | nil => rfl
  | cons first _ ih =>
      cases first with
      | exchange => rw [waits_exchange, waits_exchange, ih]
      | pause time => rw [waits_pause, waits_pause, ih]

theorem requests_of_alike (h : List.Forall₂ (Event.Alike Q) log log') :
    List.Forall₂ Q (requests log) (requests log') := by
  induction h with
  | nil => exact .nil
  | cons first _ ih =>
      cases first with
      | exchange related => exact .cons related ih
      | pause time => exact ih

theorem Delivery.alike_refl (reflexive : ∀ reply, S reply reply) (d : Delivery) : d.Alike S d := by
  refine ⟨?_, rfl⟩
  cases d.arrival with
  | reply reply => exact .reply (reflexive reply)
  | brokenBody status => exact .brokenBody status
  | nothing => exact .nothing
  | unconnected => exact .unconnected

/-- Deliveries that are alike are waited for alike. -/
theorem Delivery.Alike.within {d d' : Delivery} (h : d.Alike S d') (limit : Duration) :
    (d.within limit).Alike S (d'.within limit) := by
  obtain ⟨arrivals, elapsed⟩ := h
  cases d
  cases d'
  dsimp only at arrivals elapsed
  subst elapsed
  cases arrivals with
  | unconnected => exact .unconnected
  | reply related =>
      simp only [Delivery.within]
      split
      · exact .reply related
      · exact .nothing
  | brokenBody status =>
      simp only [Delivery.within]
      split
      · exact .brokenBody status
      · exact .nothing
  | nothing =>
      simp only [Delivery.within, ite_self]
      exact .nothing

theorem Arrival.Alike.outcome {arrival arrival' : Arrival} (h : arrival.Alike S arrival')
    {request request' : Request} (url : request.url = request'.url) :
    Both S (Network.outcomeOf request arrival) (Network.outcomeOf request' arrival') := by
  cases h with
  | reply related => exact .ok related
  | brokenBody => exact .error _
  | nothing | unconnected =>
      rw [Network.outcomeOf, Network.outcomeOf, url]
      exact .error _

end

/-! ## Attempts in step -/

namespace Network

section

variable {deliveries deliveries' : Nat → Delivery} {pacing : Pacing} {order order' : Order}
variable {Q : Request → Request → Prop} {S : Reply → Reply → Prop} {wire wire' : Wire Nat}

theorem server_le_attempt [Url.Idna] (deliveries : Nat → Delivery) (pacing : Pacing)
    (limit : Duration) (order : Order) (wire : Wire Nat) :
    wire.server ≤ (attempt (delivering deliveries pacing) limit order wire).2.server := by
  cases ordered : order.request? with
  | error e => simp only [attempt, ordered, Nat.le_refl]
  | ok request => simp only [attempt, ordered, Server.sequence, Nat.le_add_right]

theorem server_le_retry [Url.Idna] (deliveries : Nat → Delivery) (pacing : Pacing)
    (policy : RetryPolicy) (order : Order) (left made : Nat) (outcome : Outcome) (wire : Wire Nat) :
    wire.server ≤
      (retry (delivering deliveries pacing) policy order left made outcome wire).2.server := by
  induction left generalizing made outcome wire with
  | zero => exact Nat.le_refl _
  | succ left ih =>
      by_cases settled : succeeded outcome = true
      · rw [retry_succeeded settled]
      · rw [retry_succ settled]
        exact Nat.le_trans (server_le_attempt deliveries pacing policy.attemptTimeout order
          (pause (delivering deliveries pacing) _ wire).2) (ih _ _ _)

theorem inStep_pause (deliveries deliveries' : Nat → Delivery) (pacing : Pacing) (time : Duration)
    (inStep : wire.InStep Q wire') :
    (pause (delivering deliveries pacing) time wire).2.InStep Q
      (pause (delivering deliveries' pacing) time wire').2 where
  server := inStep.server
  now := congrArg (pacing.advance · time) inStep.now
  events := List.rel_append inStep.events (.cons (.pause time) .nil)

theorem attempt_inStep [Url.Idna] (limit : Duration) (orders : order.Alike Q order')
    (inStep : wire.InStep Q wire')
    (near : During (fun n => (deliveries n).Alike S (deliveries' n)) wire.server
      (attempt (delivering deliveries pacing) limit order wire).2.server) :
    Both S (attempt (delivering deliveries pacing) limit order wire).1
        (attempt (delivering deliveries' pacing) limit order' wire').1 ∧
      (attempt (delivering deliveries pacing) limit order wire).2.InStep Q
        (attempt (delivering deliveries' pacing) limit order' wire').2 := by
  obtain ⟨-, requests⟩ := orders
  obtain ⟨server, now, events⟩ := inStep
  cases ordered : order.request? with
  | error e =>
      rw [ordered] at requests
      generalize refused : order'.request? = refusal at requests
      cases requests
      simp only [attempt, ordered, refused]
      exact ⟨.error e, server, now, events⟩
  | ok request =>
      rw [ordered] at requests
      generalize ordered' : order'.request? = sent at requests
      cases requests with
      | @ok _ request' related =>
          have taken : (deliveries wire.server).Alike S (deliveries' wire.server) := by
            apply near _ (Nat.le_refl _)
            simp only [attempt, ordered, Server.sequence, Nat.lt_succ_self]
          simp only [attempt, ordered, ordered', Server.sequence, ← server]
          refine ⟨(taken.within limit).outcome related.2, rfl, ?_, ?_⟩
          · rw [now, taken.elapsed]
          · exact List.rel_append events (.cons (.exchange related.1 _ _) .nil)

/-- What may be told apart in no reply is told apart in no outcome. -/
theorem succeeded_eq (status : ∀ reply reply', S reply reply' → reply.status = reply'.status)
    {outcome outcome' : Outcome} (both : Both S outcome outcome') :
    succeeded outcome = succeeded outcome' := by
  cases both with
  | error e => rfl
  | ok related => rw [succeeded, succeeded, status _ _ related]

theorem retry_inStep [Url.Idna]
    (status : ∀ reply reply', S reply reply' → reply.status = reply'.status)
    {policy : RetryPolicy} (orders : order.Alike Q order') (left made : Nat)
    {outcome outcome' : Outcome} (both : Both S outcome outcome') (inStep : wire.InStep Q wire')
    (near : During (fun n => (deliveries n).Alike S (deliveries' n)) wire.server
      (retry (delivering deliveries pacing) policy order left made outcome wire).2.server) :
    Both S (retry (delivering deliveries pacing) policy order left made outcome wire).1
        (retry (delivering deliveries' pacing) policy order' left made outcome' wire').1 ∧
      (retry (delivering deliveries pacing) policy order left made outcome wire).2.InStep Q
        (retry (delivering deliveries' pacing) policy order' left made outcome' wire').2 := by
  induction left generalizing made outcome outcome' wire wire' with
  | zero => exact ⟨both, inStep⟩
  | succ left ih =>
      by_cases settled : succeeded outcome = true
      · have settled' : succeeded outcome' = true := succeeded_eq status both ▸ settled
        rw [retry_succeeded settled, retry_succeeded settled']
        exact ⟨both, inStep⟩
      · have settled' : ¬ succeeded outcome' = true := succeeded_eq status both ▸ settled
        rw [retry_succ settled] at near ⊢
        rw [retry_succ settled']
        dsimp only at near ⊢
        have paused := inStep_pause deliveries deliveries' pacing (policy.backoff.delay (made - 1))
          inStep
        have further := server_le_retry deliveries pacing policy order left (made + 1)
        have taken := server_le_attempt deliveries pacing policy.attemptTimeout order
          ((delivering deliveries pacing).pause (policy.backoff.delay (made - 1)) wire).2
        obtain ⟨next, there⟩ :=
          attempt_inStep policy.attemptTimeout orders paused (near.front (further _ _))
        exact ih (made + 1) next there (near.back taken)

theorem execute_inStep [Url.Idna]
    (status : ∀ reply reply', S reply reply' → reply.status = reply'.status)
    {policy : RetryPolicy} (orders : order.Alike Q order') (inStep : wire.InStep Q wire')
    (near : During (fun n => (deliveries n).Alike S (deliveries' n)) wire.server
      (execute (delivering deliveries pacing) policy order wire).2.server) :
    Both S (execute (delivering deliveries pacing) policy order wire).1
        (execute (delivering deliveries' pacing) policy order' wire').1 ∧
      (execute (delivering deliveries pacing) policy order wire).2.InStep Q
        (execute (delivering deliveries' pacing) policy order' wire').2 := by
  rw [execute_eq] at near ⊢
  rw [execute_eq, ← orders.url]
  dsimp only at near ⊢
  rw [attempts_eq] at near ⊢
  rw [attempts_eq]
  obtain ⟨first, there⟩ := attempt_inStep policy.attemptTimeout orders inStep
    (near.front (server_le_retry _ _ _ _ _ _ _ _))
  obtain ⟨last, after⟩ := retry_inStep status orders (policy.attempts - 1) 1 first there
    (near.back (server_le_attempt _ _ _ _ _))
  exact ⟨last.mapError _, after⟩

end

theorem server_le_execute [Url.Idna] (deliveries : Nat → Delivery) (pacing : Pacing)
    (policy : RetryPolicy) (order : Order) (wire : Wire Nat) :
    wire.server ≤ (execute (delivering deliveries pacing) policy order wire).2.server := by
  rw [execute_eq, attempts_eq]
  exact Nat.le_trans (server_le_attempt deliveries pacing policy.attemptTimeout order wire)
    (server_le_retry deliveries pacing policy order _ _ _ _)

end Network

end Http

open Http

/-! ## Calls in step -/

namespace Inventory.Client

open Network

/-- Two scopes for which the client makes its calls alike. -/
structure ActsAlike [Url.Idna] (client : Client) (Q : Request → Request → Prop)
    (scope scope' : Scope) : Prop where
  account : scope.account = scope'.account
  sendable : Sendable scope ↔ Sendable scope'
  orders : ∀ plan, (client.order scope plan).Alike Q (client.order scope' plan)

/-- What is made of the outcome of a request. -/
def conclusion (call : Call) (plan : Plan) (target : Target) :
    Except TransportError Reply → Except Failure call.Answer
  | .error e => .error (.noReply target e)
  | .ok reply => call.interpret plan target reply

theorem perform_eq_conclusion [Url.Idna] {σ : Type} {client : Client} {scope : Scope} {call : Call}
    {plan : Plan} (net : Network σ) (wire : Wire σ) (planned : call.plan = .ok plan)
    (sendable : Sendable scope) :
    client.perform net scope call wire =
      let executed := net.execute (client.policy plan) (client.order scope plan) wire
      (conclusion call plan (client.target scope call plan) executed.1, executed.2) := by
  rw [perform_eq net wire planned sendable]
  dsimp only
  cases (net.execute (client.policy plan) (client.order scope plan) wire).1 <;> rfl

section

variable {deliveries deliveries' : Nat → Delivery} {pacing : Pacing} {client : Client}
variable {scope scope' : Scope} {call : Call} {Q : Request → Request → Prop}
variable {S : Reply → Reply → Prop} {R : call.Answer → call.Answer → Prop} {wire wire' : Wire Nat}

theorem server_le_perform [Url.Idna] (deliveries : Nat → Delivery) (pacing : Pacing)
    (client : Client) (scope : Scope) (call : Call) (wire : Wire Nat) :
    wire.server ≤
      (client.perform (delivering deliveries pacing) scope call wire).2.server := by
  cases planned : call.plan with
  | error why => rw [perform_of_unplanned planned]
  | ok plan =>
      by_cases sendable : Sendable scope
      · rw [perform_eq_conclusion _ wire planned sendable]
        exact server_le_execute deliveries pacing _ _ wire
      · rw [perform_of_unsendable planned sendable]

theorem conclusion_alike {plan : Plan} {target : Target}
    (reads : ∀ reply reply', S reply reply' →
      Both R (call.interpret plan target reply) (call.interpret plan target reply'))
    {outcome outcome' : Except TransportError Reply} (both : Both S outcome outcome') :
    Both R (conclusion call plan target outcome) (conclusion call plan target outcome') := by
  cases both with
  | error e => exact .error _
  | ok related => exact reads _ _ related

/-- A call that is made alike and is delivered alike is answered alike, if it reads the same of
the replies. -/
theorem perform_inStep [Url.Idna]
    (status : ∀ reply reply', S reply reply' → reply.status = reply'.status)
    (reads : ∀ plan target reply reply', call.plan = .ok plan → S reply reply' →
      Both R (call.interpret plan target reply) (call.interpret plan target reply'))
    (scopes : client.ActsAlike Q scope scope') (inStep : wire.InStep Q wire')
    (near : During (fun n => (deliveries n).Alike S (deliveries' n)) wire.server
      (client.perform (delivering deliveries pacing) scope call wire).2.server) :
    Both R (client.perform (delivering deliveries pacing) scope call wire).1
        (client.perform (delivering deliveries' pacing) scope' call wire').1 ∧
      (client.perform (delivering deliveries pacing) scope call wire).2.InStep Q
        (client.perform (delivering deliveries' pacing) scope' call wire').2 := by
  cases planned : call.plan with
  | error why =>
      rw [perform_of_unplanned planned, perform_of_unplanned planned]
      exact ⟨.error _, inStep⟩
  | ok plan =>
      by_cases sendable : Sendable scope
      · have sendable' : Sendable scope' := scopes.sendable.mp sendable
        have target : client.target scope call plan = client.target scope' call plan := by
          rw [Client.target, Client.target, scopes.account]
        rw [perform_eq_conclusion _ wire planned sendable] at near ⊢
        rw [perform_eq_conclusion _ wire' planned sendable', ← target]
        dsimp only at near ⊢
        obtain ⟨outcomes, there⟩ := execute_inStep status (scopes.orders plan) inStep near
        refine ⟨conclusion_alike ?_ outcomes, there⟩
        exact fun reply reply' => reads plan _ reply reply' planned
      · have unsendable : ¬ Sendable scope' := fun able => sendable (scopes.sendable.mpr able)
        rw [perform_of_unsendable planned sendable, perform_of_unsendable planned unsendable]
        exact ⟨.error _, inStep⟩

/-- A call that is delivered the same is answered the same. -/
theorem perform_inStep_of_same [Url.Idna] (reflexive : ∀ a, R a a)
    (scopes : client.ActsAlike Q scope scope') (inStep : wire.InStep Q wire')
    (near : During (fun n => deliveries' n = deliveries n) wire.server
      (client.perform (delivering deliveries pacing) scope call wire).2.server) :
    Both R (client.perform (delivering deliveries pacing) scope call wire).1
        (client.perform (delivering deliveries' pacing) scope' call wire').1 ∧
      (client.perform (delivering deliveries pacing) scope call wire).2.InStep Q
        (client.perform (delivering deliveries' pacing) scope' call wire').2 := by
  have alike : During (fun n => (deliveries n).Alike Eq (deliveries' n)) wire.server
      (client.perform (delivering deliveries pacing) scope call wire).2.server := by
    intro n reached before
    rw [near n reached before]
    exact (deliveries n).alike_refl fun _ => rfl
  refine perform_inStep ?_ ?_ scopes inStep alike
  · rintro reply _ rfl
    rfl
  · rintro plan target reply _ - rfl
    exact .refl reflexive _

end

end Inventory.Client

end Enrollment
