import Enrollment.Proofs.Inventory.Traffic

/-!
# What a call makes of the outcome of its attempts

A call is carried out by one series of attempts, and what it answers is read off the outcome of
the series alone. The checks are made in a fixed order: whether there is a reply, whether the
reply says that the one record asked for is missing, whether its status is the accepted one,
whether its body can be read, and whether a record that has been created has an id. `Verdict`
lists the ways to answer a reply in that order; `Classified` says of each kind of answer which
outcomes it is given for, and for no others.
-/

namespace Enrollment

namespace Inventory

open Http

namespace Call

/-! ## What a call is judged by -/

/-- The call is not refused: what is to be created has no id yet, and what is to be updated or
promoted has one. -/
def IsValid : Call → Prop
  | createCloud cloud => cloud.id = none
  | createCluster _ cluster => cluster.id = none
  | updateCluster _ cluster => cluster.id.isSome = true
  | promote cluster => cluster.idText ≠ ""
  | _ => True

/-- The statuses that a call accepts. -/
def Accepts : Call → Status → Prop
  | getCloud _, status | listClouds, status | listClusters, status | getCluster _ _, status
  | getManagedCluster _, status => status.code = 200
  | createCloud _, status | createCluster _ _, status | promote _, status => status.code = 201
  | updateCluster _ _, status => 200 ≤ status.code ∧ status.code ≤ 204
  | unmanage _, status | deleteCluster _ _, status => status.code = 204

/-- The call asks for one record, which may not be there. -/
def ReadsOne : Call → Prop
  | getCloud _ | getCluster _ _ | getManagedCluster _ => True
  | _ => False

/-- What the body of an accepted reply says. A call that yields nothing does not look at it. -/
def valueOf (body : Bytes) : (call : Call) → Except Json.Fault call.Answer
  | getCloud _ | createCloud _ => CloudRecord.decode body
  | listClouds => (Listing.clouds.decode body).map (·.items)
  | listClusters => (Listing.clusters.decode body).map (·.items)
  | getCluster _ _ | createCluster _ _ | getManagedCluster _ => ClusterRecord.decode body
  | updateCluster _ _ | promote _ | unmanage _ | deleteCluster _ _ => .ok ()

/-- A cluster has been created, and the answer does not tell its id. -/
def Nameless : (call : Call) → call.Answer → Prop
  | createCluster _ _, r => r.idText = ""
  | _, _ => False

variable {call : Call} {plan : Plan} {target : Target} {reply : Reply} {status : Status}

/-- A call that is not refused is planned. -/
theorem exists_plan (valid : call.IsValid) : ∃ plan, call.plan = .ok plan := by
  cases call with
  | createCloud cloud =>
      have unnamed : cloud.id = none := valid
      simp only [Call.plan, unnamed]
      exact ⟨_, rfl⟩
  | createCluster cloudId cluster =>
      have unnamed : cluster.id = none := valid
      simp only [Call.plan, unnamed]
      exact ⟨_, rfl⟩
  | updateCluster cloudId cluster =>
      obtain ⟨id, named⟩ := Option.isSome_iff_exists.mp valid
      simp only [Call.plan, named]
      exact ⟨_, rfl⟩
  | promote cluster =>
      have named : ¬ cluster.idText.isEmpty = true := by
        intro empty
        exact valid (String.isEmpty_iff.mp empty)
      exact ⟨_, if_neg named⟩
  | _ => exact ⟨_, rfl⟩

/-- The plan of a call looks for a missing record only where one record is asked for. -/
theorem plan_canBeMissing (planned : call.plan = .ok plan) :
    plan.canBeMissing = true ↔ call.ReadsOne := by
  cases call with
  | createCloud | createCluster | updateCluster | promote =>
      simp only [Call.plan] at planned
      split at planned <;> cases planned
      simp [ReadsOne, Plan.create, Plan.replace]
  | _ =>
      cases planned
      simp [ReadsOne, Plan.read, Plan.delete]

theorem holds_exactly {wanted : Status} :
    (Accepted.exactly wanted).holds status = true ↔ status.code = wanted.code := by
  cases status
  cases wanted
  simp [Accepted.holds]

/-- The plan of a call accepts the statuses that the call does. -/
theorem plan_accepts (planned : call.plan = .ok plan) :
    plan.accepted.holds status = true ↔ call.Accepts status := by
  cases call with
  | updateCluster cloudId cluster =>
      simp only [Call.plan] at planned
      split at planned <;> cases planned
      simp only [Plan.replace, Accepted.holds, Status.isSuccess, Bool.and_eq_true,
        decide_eq_true_eq]
      change (200 ≤ status.code ∧ status.code < 300) ∧ status.code ≤ 204 ↔
        200 ≤ status.code ∧ status.code ≤ 204
      omega
  | createCloud | createCluster | promote =>
      simp only [Call.plan] at planned
      split at planned <;> cases planned
      exact holds_exactly
  | _ =>
      cases planned
      exact holds_exactly

/-! ## Replies -/

/-- What a call makes of a reply, with what the reply was found to be. -/
inductive Verdict (call : Call) (target : Target) (reply : Reply) :
    Except Failure call.Answer → Prop
  | missing (one : call.ReadsOne) (status : reply.status.code = 404) :
      Verdict call target reply (.error (.notFound (.resource target)))
  | unaccepted (present : ¬ (call.ReadsOne ∧ reply.status.code = 404))
      (status : ¬ call.Accepts reply.status) :
      Verdict call target reply
        (.error (.unexpectedStatus reply.status (.status target reply.text)))
  | garbled {fault : Json.Fault} (status : call.Accepts reply.status)
      (body : call.valueOf reply.body = .error fault) :
      Verdict call target reply (.error (.undecodable target reply.status reply.text fault))
  | nameless {a : call.Answer} (status : call.Accepts reply.status)
      (body : call.valueOf reply.body = .ok a) (nameless : call.Nameless a) :
      Verdict call target reply
        (.error (.unexpectedStatus reply.status (.createdWithoutId target reply.text)))
  | answered {a : call.Answer} (status : call.Accepts reply.status)
      (body : call.valueOf reply.body = .ok a) (named : ¬ call.Nameless a) :
      Verdict call target reply (.ok a)

/-- The status of a record that is missing is not an accepted one. -/
theorem ReadsOne.not_accepts (one : call.ReadsOne) (missing : status.code = 404) :
    ¬ call.Accepts status := by
  intro accepted
  cases call with
  | getCloud | getCluster | getManagedCluster =>
      have ok : status.code = 200 := accepted
      omega
  | _ => exact one.elim

theorem decoded_error_of {α : Type} {decode : List UInt8 → Except Json.Fault α}
    {fault : Json.Fault} (found : decode reply.body = .error fault) :
    decoded target reply decode = .error (.undecodable target reply.status reply.text fault) := by
  rw [decoded, found]
  rfl

theorem decoded_ok_of {α : Type} {decode : List UInt8 → Except Json.Fault α} {a : α}
    (found : decode reply.body = .ok a) : decoded target reply decode = .ok a := by
  rw [decoded, found]
  rfl

/-- An accepted reply is judged by its body. -/
theorem answerOf_verdict (status : call.Accepts reply.status) :
    Verdict call target reply (call.answerOf target reply) := by
  have plain {call : Call} (status : call.Accepts reply.status)
      (read : call.answerOf target reply = decoded target reply fun body => call.valueOf body)
      (never : ∀ a, ¬ call.Nameless a) :
      Verdict call target reply (call.answerOf target reply) := by
    cases found : call.valueOf reply.body with
    | error fault =>
        rw [read, decoded_error_of found]
        exact .garbled status found
    | ok a =>
        rw [read, decoded_ok_of found]
        exact .answered status found (never a)
  cases call with
  | createCluster cloudId cluster =>
      cases found : ClusterRecord.decode reply.body with
      | error fault =>
          simp only [answerOf, decoded_error_of found]
          exact .garbled status found
      | ok created =>
          simp only [answerOf, decoded_ok_of found]
          by_cases empty : created.idText.isEmpty = true
          · have nameless : created.idText = "" := String.isEmpty_iff.mp empty
            have verdict : Verdict (.createCluster cloudId cluster) target reply _ :=
              .nameless status found nameless
            simpa [bind, Except.bind, empty] using verdict
          · have named : ¬ created.idText = "" := fun same => empty (String.isEmpty_iff.mpr same)
            have verdict : Verdict (.createCluster cloudId cluster) target reply _ :=
              .answered status found named
            simpa [bind, Except.bind, empty] using verdict
  | listClouds =>
      refine plain status ?_ fun _ => id
      simp only [answerOf, decoded, valueOf]
      cases Listing.clouds.decode reply.body <;> rfl
  | listClusters =>
      refine plain status ?_ fun _ => id
      simp only [answerOf, decoded, valueOf]
      cases Listing.clusters.decode reply.body <;> rfl
  | _ => exact plain status rfl fun _ => id

theorem interpret_verdict (planned : call.plan = .ok plan) :
    Verdict call target reply (call.interpret plan target reply) := by
  unfold interpret
  have missing : reply.status = .notFound ↔ reply.status.code = 404 := by
    cases reply with
    | mk status body =>
        cases status
        simp [Status.notFound]
  have absent : plan.canBeMissing = true ∧ reply.status = .notFound ↔
      call.ReadsOne ∧ reply.status.code = 404 :=
    and_congr (plan_canBeMissing planned) missing
  split
  · next both => exact .missing (absent.mp both).1 (absent.mp both).2
  · next present =>
    split
    · next accepted => exact answerOf_verdict ((plan_accepts planned).mp accepted)
    · next rejected =>
      exact .unaccepted (mt absent.mpr present) (mt (plan_accepts planned).mpr rejected)

/-! ## Outcomes -/

/-- What a call reports of the outcome of its attempts: each kind of answer is given for the
outcomes that call for it, and for no others. -/
structure Classified (call : Call) (outcome : Except TransportError Reply)
    (answer : Except Failure call.Answer) : Prop where
  noReply : ∀ e, (∃ target, answer = .error (.noReply target e)) ↔ outcome = .error e
  notFound : (∃ what, answer = .error (.notFound what)) ↔
    ∃ reply, outcome = .ok reply ∧ reply.status.code = 404 ∧ call.ReadsOne
  unexpected : ∀ status, (∃ cause, answer = .error (.unexpectedStatus status cause)) ↔
    ∃ reply, outcome = .ok reply ∧ reply.status = status ∧
      (¬ call.Accepts status ∧ ¬ (call.ReadsOne ∧ status.code = 404) ∨
        call.Accepts status ∧ ∃ a, call.valueOf reply.body = .ok a ∧ call.Nameless a)
  undecodable : ∀ fault,
    (∃ target status text, answer = .error (.undecodable target status text fault)) ↔
      ∃ reply, outcome = .ok reply ∧ call.Accepts reply.status ∧
        call.valueOf reply.body = .error fault
  ok : ∀ a, answer = .ok a ↔
    ∃ reply, outcome = .ok reply ∧ call.Accepts reply.status ∧ call.valueOf reply.body = .ok a ∧
      ¬ call.Nameless a

theorem classified_of_error (target : Target) (e : TransportError) :
    Classified call (.error e) (.error (.noReply target e)) := by
  constructor <;> simp

theorem Verdict.classified {answer : Except Failure call.Answer}
    (h : Verdict call target reply answer) : Classified call (.ok reply) answer := by
  have present (status : call.Accepts reply.status) (missing : reply.status.code = 404) :
      ¬ call.ReadsOne := by
    intro one
    exact one.not_accepts missing status
  cases h with
  | missing one status =>
      have rejected := one.not_accepts status
      constructor <;> simp_all
  | unaccepted present status =>
      have present (missing : reply.status.code = 404) : ¬ call.ReadsOne := by
        intro one
        exact present ⟨one, missing⟩
      constructor <;> simp_all
  | garbled status | nameless status | answered status =>
      have present := present status
      constructor <;> simp_all

end Call

namespace Client

variable {σ : Type} {client : Client} {scope : Scope} {call : Call} {plan : Plan}

/-- A call that is sent is carried out by one series of attempts, and by nothing else. -/
theorem perform_eq [Url.Idna] (net : Network σ) (wire : Wire σ) (planned : call.plan = .ok plan)
    (sendable : Header.isValue (bearer scope.token) = true) :
    client.perform net scope call wire =
      let executed := net.execute (client.policy plan) (client.order scope plan) wire
      match executed.1 with
      | .error e => (.error (.noReply (client.target scope call plan) e), executed.2)
      | .ok reply => (call.interpret plan (client.target scope call plan) reply, executed.2) := by
  simp only [perform, planned, if_pos sendable, bind, StateT.bind]
  generalize net.execute (client.policy plan) (client.order scope plan) wire = executed
  obtain ⟨outcome, wire'⟩ := executed
  cases outcome <;> rfl

/-- Every call of a client classifies its outcome exactly. A call that is valid, under a token
that a header may hold, is carried out by one series of attempts under its policy. It reports no
reply if and only if the series received none; that nothing was found if and only if the reply
has the status 404 and the call asks for one record; an unexpected status for any other reply
whose status it does not accept, and for a record that was created without an id; an undecodable
body if the status is accepted and the body cannot be read; and else it yields what the body
says. -/
theorem perform_classifies_outcome [Url.Idna] (net : Network σ) (client : Client) (scope : Scope)
    (call : Call) (wire : Wire σ) (valid : call.IsValid)
    (sendable : Header.isValue (bearer scope.token) = true) :
    ∃ plan, call.plan = .ok plan ∧
      let executed := net.execute (client.policyOf call) (client.order scope plan) wire
      call.Classified executed.1 (client.perform net scope call wire).1 ∧
        (client.perform net scope call wire).2 = executed.2 := by
  obtain ⟨plan, planned⟩ := Call.exists_plan valid
  refine ⟨plan, planned, ?_⟩
  rw [perform_eq net wire planned sendable, policy_plan planned]
  dsimp only
  cases outcome : (net.execute (client.policyOf call) (client.order scope plan) wire).1 with
  | error e => exact ⟨Call.classified_of_error _ e, rfl⟩
  | ok reply => exact ⟨(Call.interpret_verdict planned).classified, rfl⟩

/-- A record that is created without an id is reported, although the status is the accepted
one. -/
theorem nameless_creation_is_classified :
    letI := Url.Idna.asciiOnly
    let json (s : String) : Bytes := Utf8.encode s.toList
    let net : Network (List Cue) := ⟨Server.scripted, .recording⟩
    let client := Client.ofHost "http://h"
    let scope : Scope := ⟨"a", "token"⟩
    let call : Call := .createCluster "c" { name := "n" }
    let wire : Wire (List Cue) :=
      { server := [.answer .created (json r#"{"id":"","name":"n"}"#) .zero] }
    (call.IsValid ∧ Header.isValue (bearer scope.token) = true) ∧
    ∃ plan, call.plan = .ok plan ∧
      let executed := net.execute (client.policyOf call) (client.order scope plan) wire
      call.Classified executed.1 (client.perform net scope call wire).1 ∧
        (client.perform net scope call wire).2 = executed.2 := by
  let := Url.Idna.asciiOnly
  intro json net client scope call wire
  have valid : call.IsValid := rfl
  have sendable : Header.isValue (bearer scope.token) = true := by decide
  exact ⟨⟨valid, sendable⟩, perform_classifies_outcome net client scope call wire valid sendable⟩

end Client

end Inventory

/-! ## Failures of calls -/

/-- The failure tells what has become of a request, and nothing about the inventory. -/
def Failure.OfRequest : Failure → Prop
  | .noReply _ _ | .unexpectedStatus _ _ | .undecodable _ _ _ _ | .refused _ => True
  | _ => False

namespace Registration

open Inventory

/-- A call that does not ask for one record fails over its request only. -/
theorem Leaves.ofRequest [Url.Idna] {client : Client} {scope : Scope} {call : Call}
    {log : List Http.Event} {e : Failure} (h : Leaves client (.call scope call (.error e)) log)
    (other : ¬ call.ReadsOne) : e.OfRequest := by
  obtain ⟨-, why, refused⟩ | ⟨plan, planned, sent⟩ := h.of_call
  · cases refused
    exact trivial
  obtain ⟨_, _, failed, -⟩ | ⟨reply, read, -⟩ := sent
  · cases failed
    exact trivial
  · have verdict : call.Verdict (client.target scope call plan) reply (.error e) :=
      read ▸ Call.interpret_verdict planned
    cases verdict with
    | missing one => exact absurd one other
    | unaccepted | garbled | nameless => exact trivial

end Registration

end Enrollment
