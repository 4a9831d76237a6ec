import Enrollment.Proofs.Inventory.Log

/-!
# The requests of a flow

Every request in the log of a flow is sent for one of its calls, and a call sends no more
requests than its policy allows attempts. So the calls that a flow makes bound what it sends:
a flow whose calls leave the records of clusters alone sends no request that writes to them,
and a flow that makes calls of some kind once at most sends at most as many requests for them
as one call may.
-/

namespace Enrollment

namespace Http

/-- The requests of a log, those included for which no connection was made. -/
def requests (log : List Event) : List Request :=
  log.filterMap fun
    | .exchange request _ => some request
    | .pause _ => none

section

variable {log xs ys : List Event} {request : Request} {P : Request → Prop} {m n : Nat}
variable {policy : RetryPolicy} {order : Order} {left made : Nat} {outcome : Network.Outcome}

@[simp] theorem requests_nil : requests [] = [] := rfl

@[simp] theorem requests_exchange (request : Request) (arrival : Arrival) :
    requests (.exchange request arrival :: log) = request :: requests log := rfl

@[simp] theorem requests_pause (time : Duration) :
    requests (.pause time :: log) = requests log := rfl

@[simp] theorem requests_append : requests (xs ++ ys) = requests xs ++ requests ys :=
  List.filterMap_append

theorem mem_requests : request ∈ requests log ↔ ∃ arrival, .exchange request arrival ∈ log := by
  induction log with
  | nil => simp
  | cons event log ih => cases event <;> simp [ih, exists_or]

theorem Attempt.length_requests_le [Url.Idna] (h : Attempt order log outcome) :
    (requests log).length ≤ 1 := by
  cases h <;> simp

/-- A series of attempts sends no more requests than there are attempts. -/
theorem Series.length_requests_le [Url.Idna] (h : Series policy order left made log outcome) :
    (requests log).length ≤ left + 1 := by
  induction h with
  | last attempt =>
      have one := attempt.length_requests_le
      omega
  | again attempt _ _ ih =>
      have one := attempt.length_requests_le
      rw [requests_append, requests_pause, List.length_append]
      omega

/-! ## Counting requests -/

/-- No more than `n` requests of the log are as `P` says. -/
def AtMost (n : Nat) (P : Request → Prop) (log : List Event) : Prop :=
  ∀ sent : List Request, sent.Sublist (requests log) → (∀ request ∈ sent, P request) →
    sent.length ≤ n

theorem AtMost.mono (h : AtMost m P log) (le : m ≤ n) : AtMost n P log := by
  intro sent part all
  exact Nat.le_trans (h sent part all) le

theorem AtMost.of_imp {Q : Request → Prop} (h : AtMost n P log)
    (imp : ∀ request ∈ requests log, Q request → P request) : AtMost n Q log := by
  intro sent part all
  exact h sent part fun r member => imp r (part.subset member) (all r member)

theorem AtMost.nil (n : Nat) (P : Request → Prop) : AtMost n P [] := by
  intro sent part _
  rw [List.eq_nil_of_sublist_nil part]
  exact Nat.zero_le n

theorem AtMost.append (left : AtMost m P xs) (right : AtMost n P ys) :
    AtMost (m + n) P (xs ++ ys) := by
  intro sent part all
  rw [requests_append] at part
  obtain ⟨front, back, rfl, head, tail⟩ := List.sublist_append_iff.mp part
  have short := left front head fun r member => all r (List.mem_append_left back member)
  have short' := right back tail fun r member => all r (List.mem_append_right front member)
  rw [List.length_append]
  exact Nat.add_le_add short short'

end

end Http

open Http

namespace Inventory

/-! ## Requests that write to the records of clusters -/

/-- A call that leaves the records of clusters alone reads, or posts a cloud. -/
theorem Call.plan_of_spares {call : Call} {plan : Plan} (planned : call.plan = .ok plan)
    (spares : ¬ call.WritesCluster) :
    plan.method = .get ∨
      (∃ cloud, call = .createCloud cloud) ∧ plan.method = .post ∧ plan.resource = .clouds := by
  cases call with
  | createCluster | updateCluster | promote | unmanage | deleteCluster =>
      exact absurd trivial spares
  | createCloud cloud =>
      simp only [Call.plan] at planned
      split at planned <;> cases planned
      exact .inr ⟨⟨cloud, rfl⟩, rfl, rfl⟩
  | _ =>
      cases planned
      exact .inl rfl

/-- Only updates are planned as a put. -/
theorem Call.plan_put {call : Call} {plan : Plan} (planned : call.plan = .ok plan)
    (put : plan.method = .put) : ∃ cloudId cluster, call = .updateCluster cloudId cluster := by
  cases call with
  | updateCluster cloudId cluster => exact ⟨cloudId, cluster, rfl⟩
  | createCloud | createCluster | promote =>
      simp only [Call.plan] at planned
      split at planned <;> cases planned
      cases put
  | _ =>
      cases planned
      cases put

/-- The call may be carried out again without doing more than it did the first time. -/
def Call.repeatable : Call → Bool
  | .updateCluster _ _ | .promote _ => true
  | _ => false

theorem Call.plan_repeatable {call : Call} {plan : Plan} (planned : call.plan = .ok plan) :
    plan.repeatable = call.repeatable := by
  cases call with
  | createCloud | createCluster | updateCluster | promote =>
      simp only [Call.plan] at planned
      split at planned <;> cases planned
      rfl
  | _ =>
      cases planned
      rfl

namespace Client

variable {client : Client} {scope : Scope} {call : Call} {request : Request}

/-- The policy that a call is attempted under. -/
def policyOf (client : Client) (call : Call) : RetryPolicy :=
  if call.repeatable then client.writes else client.reads

theorem policy_plan {plan : Plan} (planned : call.plan = .ok plan) :
    client.policy plan = client.policyOf call := by
  unfold policy policyOf
  rw [Call.plan_repeatable planned]

variable [Url.Idna]

/-- The request writes to the records of clusters: it puts or deletes one, or it posts to a
collection of clusters or of managed clusters. -/
def WritesCluster (client : Client) (request : Request) : Prop :=
  request.method = .put ∨ request.method = .delete ∨
    ∃ account resource, client.Addresses account .post resource request ∧
      (resource.collection? = some "clusters" ∨ resource.collection? = some "managedClusters")

/-- A call is carried out by one request only. -/
theorem Sends.unique {other : Request} (h : client.Sends scope call request)
    (h' : client.Sends scope call other) : request = other := by
  obtain ⟨plan, planned, sent⟩ := h
  obtain ⟨plan', planned', sent'⟩ := h'
  cases planned.symm.trans planned'
  exact Except.ok.inj (sent.symm.trans sent')

theorem Sends.of_put (h : client.Sends scope call request) (put : request.method = .put) :
    ∃ cloudId cluster, call = .updateCluster cloudId cluster := by
  obtain ⟨plan, planned, addressed, -⟩ := h.addresses
  exact Call.plan_put planned (addressed.1.symm.trans put)

/-- A call that leaves the records of clusters alone sends a read, or a post of a cloud. -/
theorem Sends.of_spares (h : client.Sends scope call request) (spares : ¬ call.WritesCluster) :
    request.method = .get ∨ (∃ cloud, call = .createCloud cloud) ∧
      client.Addresses scope.account .post .clouds request := by
  obtain ⟨plan, planned, addressed, -⟩ := h.addresses
  rcases Call.plan_of_spares planned spares with get | ⟨created, post, clouds⟩
  · exact .inl (addressed.1.trans get)
  · rw [post, clouds] at addressed
    exact .inr ⟨created, addressed⟩

/-- A request that writes to the records of clusters is sent by a call that does. -/
theorem Sends.writesCluster (h : client.Sends scope call request)
    (writes : client.WritesCluster request) : call.WritesCluster := by
  by_contra spares
  obtain ⟨_, -, -, sendable⟩ := h.addresses
  rcases h.of_spares spares with get | ⟨-, cloud⟩
  · rcases writes with put | delete | ⟨account, resource, posted, -⟩
    · cases get.symm.trans put
    · cases get.symm.trans delete
    · cases get.symm.trans posted.1
  · rcases writes with put | delete | ⟨account, resource, posted, clusters | managed⟩
    · cases cloud.1.symm.trans put
    · cases cloud.1.symm.trans delete
    · exact absurd (collection_unique cloud posted rfl clusters sendable) (by decide)
    · exact absurd (collection_unique cloud posted rfl managed sendable) (by decide)

end Client

end Inventory

variable [Url.Idna]

namespace Registration

open Inventory

section

variable {client : Client} {step : Step} {steps : List Step} {log : List Event}
variable {request : Request} {scope : Scope} {call : Call} {P : Request → Prop}

/-- Every request is sent for a call of the flow. -/
theorem Logged.sends (h : Logged client steps log) (member : request ∈ requests log) :
    ∃ scope call answer, .call scope call answer ∈ steps ∧ client.Sends scope call request := by
  induction h with
  | nil => exact absurd member List.not_mem_nil
  | cons first _ ih =>
      rw [requests_append] at member
      rcases List.mem_append.mp member with here | there
      · obtain ⟨arrival, inside⟩ := mem_requests.mp here
        obtain ⟨scope, call, answer, rfl, sends⟩ := first.sends inside
        exact ⟨scope, call, answer, List.mem_cons_self, sends⟩
      · obtain ⟨scope, call, answer, inside, sends⟩ := ih there
        exact ⟨scope, call, answer, List.mem_cons_of_mem _ inside, sends⟩

/-- Steps that leave the records of clusters alone send nothing that writes to them. -/
theorem Logged.spares (h : Logged client steps log) (spares : ∀ step ∈ steps, ¬ step.WritesCluster)
    (member : request ∈ requests log) : ¬ client.WritesCluster request := by
  obtain ⟨scope, call, answer, inside, sends⟩ := h.sends member
  exact fun writes => spares _ inside (sends.writesCluster writes)

/-- One call sends no more requests than its policy allows attempts. -/
theorem Leaves.length_requests_le {answer : Except Failure call.Answer}
    (h : Leaves client (.call scope call answer) log) :
    (requests log).length ≤ (client.policyOf call).attempts := by
  rcases h.series with rfl | ⟨plan, outcome, planned, series⟩
  · exact Nat.zero_le _
  · rw [Client.policy_plan planned] at series
    have short := series.length_requests_le
    have attempts := (client.policyOf call).attempts_pos
    omega

/-- When requests of some kind are sent by calls of one kind only, there are no more of them
than those calls may send. -/
theorem Logged.atMost {operation : String} {policy : RetryPolicy} (h : Logged client steps log)
    (only : ∀ {scope call request}, client.Sends scope call request → P request →
      call.operation = operation ∧ client.policyOf call = policy) :
    AtMost ((steps.map Step.operation?).count (some operation) * policy.attempts) P log := by
  induction h with
  | nil => exact AtMost.nil _ P
  | @cons step steps log rest first _ ih =>
      have here : AtMost ((if step.operation? == some operation then 1 else 0) * policy.attempts)
          P log := by
        intro sent part all
        cases sent with
        | nil => exact Nat.zero_le _
        | cons request others =>
            obtain ⟨arrival, inside⟩ := mem_requests.mp (part.subset List.mem_cons_self)
            obtain ⟨scope, call, answer, rfl, sends⟩ := first.sends inside
            obtain ⟨same, rfl⟩ := only sends (all request List.mem_cons_self)
            have short := part.length_le.trans first.length_requests_le
            simpa [Step.operation?, same] using short
      rw [List.map_cons, List.count_cons, Nat.add_comm, Nat.add_mul]
      exact here.append ih

end

end Registration

end Enrollment
