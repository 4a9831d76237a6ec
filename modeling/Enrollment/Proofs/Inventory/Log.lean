import Enrollment.Proofs.Flow.Steps
import Enrollment.Proofs.Http.Series
import Enrollment.Proofs.Inventory.Address

/-!
# What the steps of a flow leave on the wire

`Leaves` says which events one step may add to the wire of a client, together with what the
step answers: a call either sends nothing, or leaves a series of attempts that its answer is
made of. The log of a flow is put together from what its steps leave, in their order. So an
exchange in the log belongs to one step, with the steps in front of it logged in front of it;
and a call that succeeded has left an exchange in which the reply came back whole, with an
accepted status and a body that decodes to the answer.
-/

namespace Enrollment.Registration

open Inventory Http

/-! ## Replies -/

/-- A reply that answers a call has an accepted status, and its body holds the answer. -/
theorem interpret_ok {call : Call} {plan : Plan} {target : Target} {reply : Reply}
    {answer : call.Answer} (h : call.interpret plan target reply = .ok answer) :
    plan.accepted.holds reply.status = true ∧ call.answerOf target reply = .ok answer := by
  unfold Call.interpret at h
  split at h
  · cases h
  · split at h
    · next accepted => exact ⟨accepted, h⟩
    · cases h

theorem decoded_ok {α : Type} {target : Target} {reply : Reply}
    {decode : List UInt8 → Except Json.Fault α} {a : α}
    (h : Call.decoded target reply decode = .ok a) : decode reply.body = .ok a := by
  unfold Call.decoded at h
  cases found : decode reply.body with
  | error fault =>
      rw [found] at h
      cases h
  | ok b =>
      rw [found] at h
      cases h
      rfl

theorem listing_ok {ρ : Type} {layout : Json.Layout (Listing ρ)} {target : Target} {reply : Reply}
    {records : List ρ}
    (h : (Call.decoded target reply layout.decode).map (·.items) = .ok records) :
    layout.decode reply.body = .ok ⟨records⟩ := by
  cases found : Call.decoded target reply layout.decode with
  | error e =>
      rw [found] at h
      cases h
  | ok listing =>
      rw [found] at h
      cases h
      exact decoded_ok found

theorem status_of_exactly {wanted status : Status}
    (h : (Accepted.exactly wanted).holds status = true) : status = wanted := of_decide_eq_true h

/-! ## Steps -/

variable [Url.Idna]

/-- The events that one step leaves on the wire of a client. -/
inductive Leaves (client : Client) : Step → List Event → Prop
  | refused {scope : Scope} {call : Call} {why : Refusal} :
      Leaves client (.call scope call (.error (.refused why))) []
  | unanswered {scope : Scope} {call : Call} {plan : Plan} {log : List Event}
      {cause : NetworkError} {e : TransportError} (planned : call.plan = .ok plan)
      (series : Series (client.policy plan) (client.order scope plan)
        ((client.policy plan).attempts - 1) 1 log (.error cause)) :
      Leaves client (.call scope call (.error (.noReply (client.target scope call plan) e))) log
  | answered {scope : Scope} {call : Call} {plan : Plan} {log : List Event} {reply : Reply}
      (planned : call.plan = .ok plan)
      (series : Series (client.policy plan) (client.order scope plan)
        ((client.policy plan).attempts - 1) 1 log (.ok reply)) :
      Leaves client
        (.call scope call (call.interpret plan (client.target scope call plan) reply)) log
  | now {shown : Instant} : Leaves client (.now shown) []
  | pause {time : Duration} : Leaves client (.pause time) [.pause time]

/-- The log that the steps of a flow leave, one after the other. -/
inductive Logged (client : Client) : List Step → List Event → Prop
  | nil : Logged client [] []
  | cons {step : Step} {steps : List Step} {log rest : List Event}
      (first : Leaves client step log) (more : Logged client steps rest) :
      Logged client (step :: steps) (log ++ rest)

variable {σ : Type} {client : Client} {step : Step} {steps xs ys : List Step}
variable {log before after : List Event} {request : Request} {arrival : Arrival}

/-- What a call leaves: nothing when it is refused, and else a series that its answer is made
of. -/
theorem Leaves.of_call {scope : Scope} {call : Call} {answer : Except Failure call.Answer}
    (h : Leaves client (.call scope call answer) log) :
    (log = [] ∧ ∃ why, answer = .error (.refused why)) ∨
    ∃ plan, call.plan = .ok plan ∧
      ((∃ cause e, answer = .error (.noReply (client.target scope call plan) e) ∧
        Series (client.policy plan) (client.order scope plan)
          ((client.policy plan).attempts - 1) 1 log (.error cause)) ∨
      ∃ reply, answer = call.interpret plan (client.target scope call plan) reply ∧
        Series (client.policy plan) (client.order scope plan)
          ((client.policy plan).attempts - 1) 1 log (.ok reply)) := by
  generalize given : Step.call scope call answer = step at h
  cases h with
  | refused =>
      obtain ⟨-, rfl, same⟩ := Step.call.inj given
      exact .inl ⟨rfl, _, eq_of_heq same⟩
  | unanswered planned series =>
      obtain ⟨rfl, rfl, same⟩ := Step.call.inj given
      exact .inr ⟨_, planned, .inl ⟨_, _, eq_of_heq same, series⟩⟩
  | answered planned series =>
      obtain ⟨rfl, rfl, same⟩ := Step.call.inj given
      exact .inr ⟨_, planned, .inr ⟨_, eq_of_heq same, series⟩⟩
  | now | pause => cases given

/-- What a call leaves, if it leaves anything, is a series of attempts at its plan. -/
theorem Leaves.series {scope : Scope} {call : Call} {answer : Except Failure call.Answer}
    (h : Leaves client (.call scope call answer) log) :
    log = [] ∨ ∃ plan outcome, call.plan = .ok plan ∧
      Series (client.policy plan) (client.order scope plan)
        ((client.policy plan).attempts - 1) 1 log outcome := by
  rcases h.of_call with ⟨rfl, -⟩ | ⟨plan, planned, ⟨cause, _, -, series⟩ | ⟨reply, -, series⟩⟩
  · exact .inl rfl
  · exact .inr ⟨plan, .error cause, planned, series⟩
  · exact .inr ⟨plan, .ok reply, planned, series⟩

theorem perform_leaves (net : Network σ) (client : Client) (scope : Scope) (call : Call)
    (wire : Wire σ) :
    ∃ log, (client.perform net scope call wire).2.events = wire.events ++ log ∧
      Leaves client (.call scope call (client.perform net scope call wire).1) log := by
  cases planned : call.plan with
  | error why =>
      simp only [Client.perform, planned]
      exact ⟨[], (List.append_nil _).symm, .refused⟩
  | ok plan =>
      simp only [Client.perform, planned]
      split
      · obtain ⟨log, events, series⟩ :=
          attempts_series net (client.policy plan) (client.order scope plan) wire
        simp only [bind, StateT.bind, Network.execute_eq]
        generalize net.attempts (client.policy plan) (client.order scope plan) wire = made
          at events series
        obtain ⟨outcome, wire'⟩ := made
        refine ⟨log, ?_⟩
        cases outcome with
        | error cause => exact ⟨events, .unanswered planned series⟩
        | ok reply => exact ⟨events, .answered planned series⟩
      · exact ⟨[], (List.append_nil _).symm, .refused⟩

/-- A step over HTTP adds to the events on the wire what it leaves. -/
theorem moves_leaves {net : Network σ} {wire wire' : Wire σ}
    (h : (overHttp net client).Moves wire step wire') :
    ∃ log, wire'.events = wire.events ++ log ∧ Leaves client step log := by
  cases h with
  | call scope c => exact perform_leaves net client scope c wire
  | now => exact ⟨[], (List.append_nil _).symm, .now⟩
  | pause time => exact ⟨[.pause time], rfl, .pause⟩

/-- What a flow adds to the events on the wire. -/
theorem along_logged {net : Network σ} {wire wire' : Wire σ}
    (h : Along (overHttp net client).Moves wire steps wire') :
    ∃ log, wire'.events = wire.events ++ log ∧ Logged client steps log := by
  induction h with
  | nil wire => exact ⟨[], (List.append_nil _).symm, .nil⟩
  | cons first _ ih =>
      obtain ⟨log, events, left⟩ := moves_leaves first
      obtain ⟨rest, behind, logged⟩ := ih
      exact ⟨log ++ rest, by rw [behind, events, List.append_assoc], .cons left logged⟩

theorem logged_append_iff :
    Logged client (xs ++ ys) log ↔
      ∃ front back, log = front ++ back ∧ Logged client xs front ∧ Logged client ys back := by
  induction xs generalizing log with
  | nil =>
      constructor
      · intro h
        exact ⟨[], log, rfl, .nil, h⟩
      · rintro ⟨front, back, rfl, ⟨⟩, h⟩
        exact h
  | cons x xs ih =>
      constructor
      · rintro (_ | ⟨first, more⟩)
        obtain ⟨front, back, rfl, left, right⟩ := ih.mp more
        exact ⟨_ ++ front, back, (List.append_assoc _ _ _).symm, .cons first left, right⟩
      · rintro ⟨_, back, rfl, _ | ⟨first, more⟩, right⟩
        rw [List.append_assoc]
        exact .cons first (ih.mpr ⟨_, back, rfl, more, right⟩)

@[simp] theorem logged_singleton_iff : Logged client [step] log ↔ Leaves client step log := by
  constructor
  · rintro (_ | ⟨first, ⟨⟩⟩)
    rw [List.append_nil]
    exact first
  · intro first
    rw [← List.append_nil log]
    exact .cons first .nil

/-- The steps of a run over HTTP, and the log that they leave. -/
theorem exists_takes_logged {α : Type} (net : Network σ) (client : Client) (x : Flow α)
    (wire : Wire σ) :
    ∃ steps log, x.Takes steps (x.run (overHttp net client) wire).1 ∧
      (x.run (overHttp net client) wire).2.events = wire.events ++ log ∧
      Logged client steps log := by
  obtain ⟨steps, takes, along, -⟩ := Flow.exists_takes_run (overHttp net client) x wire
  obtain ⟨log, events, logged⟩ := along_logged along
  exact ⟨steps, log, takes, events, logged⟩

/-! ## Exchanges -/

/-- Every request in a log is as `P` says of it and of the log in front of it. -/
def EachSent (log : List Event) (P : List Event → Request → Prop) : Prop :=
  ∀ before request arrival after, log = before ++ .exchange request arrival :: after →
    P before request

/-- An exchange is left by a call that sends its request. -/
theorem Leaves.sends (h : Leaves client step log) (member : .exchange request arrival ∈ log) :
    ∃ scope call answer, step = .call scope call answer ∧ client.Sends scope call request := by
  cases h with
  | refused | now => exact absurd member List.not_mem_nil
  | unanswered planned series | answered planned series =>
      exact ⟨_, _, _, rfl, _, planned, series.request_eq member⟩
  | pause => cases List.mem_singleton.mp member

/-- The steps in front of the one that an exchange belongs to are logged in front of it. -/
theorem Logged.exchange (h : Logged client steps log)
    (split : log = before ++ .exchange request arrival :: after) :
    ∃ front scope call answer back passed, steps = front ++ .call scope call answer :: back ∧
      client.Sends scope call request ∧ Logged client front passed ∧ passed <+: before := by
  induction h generalizing before with
  | nil => exact absurd split.symm (by simp)
  | @cons step steps log rest first more ih =>
      have later {inner : List Event} (cut : rest = inner ++ .exchange request arrival :: after)
          (front : before = log ++ inner) :
          ∃ front scope call answer back passed,
            step :: steps = front ++ .call scope call answer :: back ∧
            client.Sends scope call request ∧ Logged client front passed ∧ passed <+: before := by
        obtain ⟨front, scope, call, answer, back, passed, rfl, sends, logged, short⟩ := ih cut
        refine ⟨step :: front, scope, call, answer, back, log ++ passed, rfl, sends,
          .cons first logged, ?_⟩
        subst before
        exact (List.prefix_append_right_inj log).mpr short
      rcases List.append_eq_append_iff.mp split with ⟨inner, same, cut⟩ | ⟨inner, same, cut⟩
      · exact later cut same
      · cases inner with
        | nil =>
            have cut : rest = [] ++ .exchange request arrival :: after := cut.symm
            exact later cut (by rw [same, List.append_nil, List.append_nil])
        | cons event inner =>
            obtain ⟨rfl, -⟩ := List.cons.inj cut
            have member : .exchange request arrival ∈ log := by simp [same]
            obtain ⟨scope, call, answer, rfl, sends⟩ := first.sends member
            exact ⟨[], scope, call, answer, steps, [], rfl, sends, .nil, List.nil_prefix⟩

/-! ## Answers -/

/-- The call of the client has been answered completely, with this reply. -/
def Answered (client : Client) (account : String) (method : Method) (resource : Resource)
    (reply : Reply) (log : List Event) : Prop :=
  ∃ request, client.Addresses account method resource request ∧
    .exchange request (.reply reply) ∈ log

theorem Answered.mono {account : String} {method : Method} {resource : Resource} {reply : Reply}
    {rest : List Event} (h : Answered client account method resource reply log)
    (part : log ⊆ rest) : Answered client account method resource reply rest := by
  obtain ⟨request, addressed, member⟩ := h
  exact ⟨request, addressed, part member⟩

/-- A call that succeeded leaves its request, answered by a reply that holds the answer, as the
last thing. -/
theorem Leaves.concluded {scope : Scope} {call : Call} {answer : call.Answer}
    (h : Leaves client (.call scope call (.ok answer)) log) :
    ∃ plan request reply front, call.plan = .ok plan ∧
      (client.order scope plan).request? = .ok request ∧
      log = front ++ [.exchange request (.reply reply)] ∧
      plan.accepted.holds reply.status = true ∧
      call.answerOf (client.target scope call plan) reply = .ok answer := by
  obtain ⟨-, why, refused⟩ | ⟨plan, planned, sent⟩ := h.of_call
  · cases refused
  obtain ⟨_, _, failed, -⟩ | ⟨reply, held, series⟩ := sent
  · cases failed
  · obtain ⟨accepted, held⟩ := interpret_ok held.symm
    obtain ⟨front, request, rfl⟩ := series.replied
    have sent := series.request_eq (List.mem_append_right front List.mem_cons_self)
    exact ⟨plan, request, reply, front, planned, sent, rfl, accepted, held⟩

/-- A call that succeeded has been answered by a reply that holds its answer. -/
theorem Leaves.answered_ok {scope : Scope} {call : Call} {answer : call.Answer}
    (h : Leaves client (.call scope call (.ok answer)) log) :
    ∃ plan target reply, call.plan = .ok plan ∧
      Answered client scope.account plan.method plan.resource reply log ∧
      plan.accepted.holds reply.status = true ∧ call.answerOf target reply = .ok answer := by
  obtain ⟨plan, request, reply, front, planned, sent, rfl, accepted, held⟩ := h.concluded
  have addressed := Client.addresses_of_request? sent
  exact ⟨plan, _, reply, planned, ⟨request, addressed, by simp⟩, accepted, held⟩

/-- What is left of a step is part of what is left of all steps. -/
theorem Logged.mem (h : Logged client steps log) (member : step ∈ steps) :
    ∃ part, part ⊆ log ∧ Leaves client step part := by
  induction h with
  | nil => exact absurd member List.not_mem_nil
  | cons first _ ih =>
      rcases List.mem_cons.mp member with rfl | member
      · exact ⟨_, List.subset_append_left _ _, first⟩
      · obtain ⟨part, within, leaves⟩ := ih member
        exact ⟨part, List.Subset.trans within (List.subset_append_right _ _), leaves⟩

/-- A call that succeeded has been answered by a reply that holds its answer. -/
theorem Logged.answered_ok {scope : Scope} {call : Call} {answer : call.Answer}
    (h : Logged client steps log) (member : .call scope call (.ok answer) ∈ steps) :
    ∃ plan target reply, call.plan = .ok plan ∧
      Answered client scope.account plan.method plan.resource reply log ∧
      plan.accepted.holds reply.status = true ∧ call.answerOf target reply = .ok answer := by
  obtain ⟨part, within, leaves⟩ := h.mem member
  obtain ⟨plan, target, reply, planned, answered, accepted, held⟩ := leaves.answered_ok
  exact ⟨plan, target, reply, planned, answered.mono within, accepted, held⟩

/-! What the calls of a registration have been answered by when they succeeded. -/

/-- All records of a kind have been listed: the reply had the status 200 and decoded to them. -/
def Listed {ρ : Type} (client : Client) (account : String) (resource : Resource)
    (layout : Json.Layout (Listing ρ)) (records : List ρ) (log : List Event) : Prop :=
  ∃ reply, Answered client account .get resource reply log ∧ reply.status = .ok ∧
    layout.decode reply.body = .ok ⟨records⟩

theorem Listed.mono {ρ : Type} {account : String} {resource : Resource}
    {layout : Json.Layout (Listing ρ)} {records : List ρ} {rest : List Event}
    (h : Listed client account resource layout records log) (part : log ⊆ rest) :
    Listed client account resource layout records rest := by
  obtain ⟨reply, answered, status, decoded⟩ := h
  exact ⟨reply, answered.mono part, status, decoded⟩

theorem Logged.clouds_listed {scope : Scope} {clouds : List CloudRecord}
    (h : Logged client steps log) (member : .call scope .listClouds (.ok clouds) ∈ steps) :
    Listed client scope.account .clouds Listing.clouds clouds log := by
  obtain ⟨plan, target, reply, planned, answered, accepted, held⟩ := h.answered_ok member
  cases planned
  exact ⟨reply, answered, status_of_exactly accepted, listing_ok held⟩

theorem Logged.clusters_listed {scope : Scope} {clusters : List ClusterRecord}
    (h : Logged client steps log) (member : .call scope .listClusters (.ok clusters) ∈ steps) :
    Listed client scope.account .clusters Listing.clusters clusters log := by
  obtain ⟨plan, target, reply, planned, answered, accepted, held⟩ := h.answered_ok member
  cases planned
  exact ⟨reply, answered, status_of_exactly accepted, listing_ok held⟩

theorem Logged.cloud_created {scope : Scope} {sent cloud : CloudRecord}
    (h : Logged client steps log) (member : .call scope (.createCloud sent) (.ok cloud) ∈ steps) :
    ∃ reply, Answered client scope.account .post .clouds reply log ∧ reply.status = .created ∧
      CloudRecord.decode reply.body = .ok cloud := by
  obtain ⟨plan, target, reply, planned, answered, accepted, held⟩ := h.answered_ok member
  simp only [Call.plan] at planned
  split at planned
  · cases planned
  · cases planned
    exact ⟨reply, answered, status_of_exactly accepted, decoded_ok held⟩

theorem Logged.cluster_found {scope : Scope} {cloudId clusterId : String} {r : ClusterRecord}
    (h : Logged client steps log)
    (member : .call scope (.getCluster cloudId clusterId) (.ok r) ∈ steps) :
    ∃ reply, Answered client scope.account .get (.cloudCluster cloudId clusterId) reply log ∧
      reply.status = .ok ∧ ClusterRecord.decode reply.body = .ok r := by
  obtain ⟨plan, target, reply, planned, answered, accepted, held⟩ := h.answered_ok member
  cases planned
  exact ⟨reply, answered, status_of_exactly accepted, decoded_ok held⟩

theorem Logged.cluster_created {scope : Scope} {cloudId : String} {sent r : ClusterRecord}
    (h : Logged client steps log)
    (member : .call scope (.createCluster cloudId sent) (.ok r) ∈ steps) :
    ∃ reply, Answered client scope.account .post (.cloudClusters cloudId) reply log ∧
      reply.status = .created ∧ ClusterRecord.decode reply.body = .ok r := by
  obtain ⟨plan, target, reply, planned, answered, accepted, held⟩ := h.answered_ok member
  simp only [Call.plan] at planned
  split at planned
  · cases planned
  · cases planned
    refine ⟨reply, answered, status_of_exactly accepted, ?_⟩
    simp only [Call.answerOf] at held
    cases found : Call.decoded target reply ClusterRecord.decode with
    | error e =>
        rw [found] at held
        cases held
    | ok created =>
        rw [found] at held
        dsimp only [bind, Except.bind] at held
        split at held
        · cases held
        · cases held
          exact decoded_ok found

theorem Logged.cluster_updated {scope : Scope} {cloudId id : String} {sent : ClusterRecord}
    (h : Logged client steps log) (named : sent.id = some id)
    (member : .call scope (.updateCluster cloudId sent) (.ok ()) ∈ steps) :
    ∃ reply, Answered client scope.account .put (.cloudCluster cloudId id) reply log ∧
      200 ≤ reply.status.code ∧ reply.status.code ≤ 204 := by
  obtain ⟨plan, target, reply, planned, answered, accepted, -⟩ := h.answered_ok member
  simp only [Call.plan, named] at planned
  cases planned
  simp only [Plan.replace, Accepted.holds, Status.isSuccess, Bool.and_eq_true,
    decide_eq_true_eq] at accepted
  exact ⟨reply, answered, accepted.1.1, accepted.2⟩

end Enrollment.Registration
