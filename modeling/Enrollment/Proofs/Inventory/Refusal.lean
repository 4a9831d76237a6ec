import Enrollment.Proofs.Inventory.Classification

/-!
# Calls that are refused

A client refuses a call for one of two reasons: the call is not planned, or the token is none
that a header may hold. In both cases nothing is sent, and the wire stays as it is. A refusal
therefore tells what is wrong with the call or with its token; and as a call that has been
answered had a token that can be sent, behind it only calls are refused that are not planned.
-/

namespace Enrollment

open Inventory Http

namespace Inventory.Client

variable {σ : Type} {net : Network σ} {client : Client} {scope : Scope} {call : Call}
variable {wire : Wire σ}

/-- The token of the scope is one that a header may hold. -/
def Sendable (scope : Scope) : Prop := Header.isValue (bearer scope.token) = true

variable [Url.Idna]

/-- A call under a token that cannot be sent is refused, and nothing is sent. -/
theorem perform_of_unsendable {plan : Plan} (planned : call.plan = .ok plan)
    (unsendable : ¬ Sendable scope) :
    client.perform net scope call wire = (.error (.refused .tokenNotSendable), wire) := by
  have refused : ¬ Header.isValue (bearer scope.token) = true := unsendable
  simp only [perform, planned, if_neg refused]
  rfl

/-- A call that is not planned is refused, and nothing is sent. -/
theorem perform_of_unplanned {why : Refusal} (unplanned : call.plan = .error why) :
    client.perform net scope call wire = (.error (.refused why), wire) := by
  simp only [perform, unplanned]
  rfl

/-- No reply leads to a refusal, so that a call that is refused has not been sent. -/
theorem refused_of_perform {why : Refusal}
    (refused : (client.perform net scope call wire).1 = .error (.refused why)) :
    call.plan = .error why ∨ why = .tokenNotSendable ∧ ¬ Sendable scope := by
  cases planned : call.plan with
  | error other =>
      rw [perform_of_unplanned planned] at refused
      cases refused
      exact .inl rfl
  | ok plan =>
      by_cases sendable : Sendable scope
      · rw [perform_eq net wire planned sendable] at refused
        dsimp only at refused
        split at refused
        · cases refused
        · next reply _ =>
          have verdict : call.Verdict (client.target scope call plan) reply
              (.error (.refused why)) := refused ▸ Call.interpret_verdict planned
          cases verdict
      · rw [perform_of_unsendable planned sendable] at refused
        cases refused
        exact .inr ⟨rfl, sendable⟩

/-- A call that succeeds has a token that can be sent, and has not created a cluster without an
id. -/
theorem sendable_of_perform {a : call.Answer}
    (answered : (client.perform net scope call wire).1 = .ok a) :
    Sendable scope ∧ ¬ call.Nameless a := by
  cases planned : call.plan with
  | error why =>
      rw [perform_of_unplanned planned] at answered
      cases answered
  | ok plan =>
      by_cases sendable : Sendable scope
      · rw [perform_eq net wire planned sendable] at answered
        dsimp only at answered
        split at answered
        · cases answered
        · next reply _ =>
          have verdict : call.Verdict (client.target scope call plan) reply (.ok a) :=
            answered ▸ Call.interpret_verdict planned
          cases verdict with
          | answered _ _ named => exact ⟨sendable, named⟩
      · rw [perform_of_unsendable planned sendable] at answered
        cases answered

end Inventory.Client

namespace Registration

section

variable {σ : Type} {net : Network σ} {client : Client} {scope : Scope} {call : Call}
variable {wire wire' : Wire σ} {step : Step} {steps : List Step} {log : List Event}

/-- What a step over HTTP tells: a refusal tells what is wrong with the call or its token, and
an answer that the token can be sent. -/
def Step.Vetted : Step → Prop
  | .call scope call (.error (.refused why)) =>
    call.plan = .error why ∨ why = .tokenNotSendable ∧ ¬ Client.Sendable scope
  | .call scope call (.ok a) => Client.Sendable scope ∧ ¬ call.Nameless a
  | _ => True

theorem moves_vetted [Url.Idna] (h : (overHttp net client).Moves wire step wire') :
    step.Vetted := by
  cases h with
  | call scope call =>
      have performed : (overHttp net client).call scope call wire =
        client.perform net scope call wire := rfl
      rw [performed]
      unfold Step.Vetted
      split
      · next refused =>
        obtain ⟨rfl, rfl, same⟩ := Step.call.inj refused
        exact Client.refused_of_perform (eq_of_heq same)
      · next answered =>
        obtain ⟨rfl, rfl, same⟩ := Step.call.inj answered
        exact Client.sendable_of_perform (eq_of_heq same)
      · trivial
  | now | pause => trivial

theorem vetted_of_along [Url.Idna] (h : Along (overHttp net client).Moves wire steps wire') :
    ∀ step ∈ steps, step.Vetted := by
  induction h with
  | nil => exact fun _ member => absurd member List.not_mem_nil
  | cons first _ ih => exact List.forall_mem_cons.mpr ⟨moves_vetted first, ih⟩

/-- A call that is planned is refused for its token alone. -/
theorem Step.Vetted.unsendable {why : Refusal} {plan : Plan}
    (h : (Step.call scope call (.error (.refused why))).Vetted) (planned : call.plan = .ok plan) :
    ¬ Client.Sendable scope := by
  rcases h with unplanned | ⟨-, unsendable⟩
  · cases planned.symm.trans unplanned
  · exact unsendable

/-- A call under a token that can be sent is refused when it is not planned. -/
theorem Step.Vetted.unplanned {why : Refusal}
    (h : (Step.call scope call (.error (.refused why))).Vetted)
    (sendable : Client.Sendable scope) : call.plan = .error why := by
  rcases h with unplanned | ⟨-, unsendable⟩
  · exact unplanned
  · exact absurd sendable unsendable

/-- A call that is refused leaves nothing. -/
theorem Leaves.nil_of_refused [Url.Idna] {why : Refusal}
    (h : Leaves client (.call scope call (.error (.refused why))) log) : log = [] := by
  rcases h.of_call with ⟨rfl, -⟩ | ⟨plan, planned, ⟨_, _, failed, -⟩ | ⟨reply, read, -⟩⟩
  · rfl
  · cases failed
  · have verdict : call.Verdict (client.target scope call plan) reply (.error (.refused why)) :=
      read ▸ Call.interpret_verdict planned
    cases verdict

/-- The steps of a run over HTTP, vetted, and the log that they leave. -/
theorem exists_takes_vetted [Url.Idna] {α : Type} (net : Network σ) (client : Client) (x : Flow α)
    (wire : Wire σ) :
    ∃ steps log, x.Takes steps (x.run (overHttp net client) wire).1 ∧
      (x.run (overHttp net client) wire).2.events = wire.events ++ log ∧
      Logged client steps log ∧ ∀ step ∈ steps, step.Vetted := by
  obtain ⟨steps, takes, along, -⟩ := Flow.exists_takes_run (overHttp net client) x wire
  obtain ⟨log, events, logged⟩ := along_logged along
  exact ⟨steps, log, takes, events, logged, vetted_of_along along⟩

end

end Registration

end Enrollment
