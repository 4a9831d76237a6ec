import Enrollment.Proofs.Inventory.Reaction
import Enrollment.Proofs.Inventory.Refusal

/-!
# Both inventories refuse the same calls

What a call must be like to be carried out is checked by the client before anything is sent, and by
the store before anything is changed: what is to be created must not have an id, what is to be
updated must have one, and what is to be promoted must have one that is not empty. `Call.IsValid`
says this once for both, so that a call that the inventory in memory refuses is refused over HTTP
as well, and the other way round.
-/

namespace Enrollment

open Inventory Http

/-- It has been refused. -/
def IsRefused {α : Type} (out : Except Failure α) : Prop := ∃ why, out = .error (.refused why)

namespace Inventory

variable {call : Call}

/-- Calls that are planned are valid. -/
theorem Call.isValid_of_plan {plan : Plan} (planned : call.plan = .ok plan) : call.IsValid := by
  cases call with
  | createCloud | createCluster =>
      simp only [Call.plan] at planned
      split at planned
      · cases planned
      · next unnamed => exact unnamed
  | updateCluster cloudId cluster =>
      simp only [Call.plan] at planned
      split at planned
      · cases planned
      · next id named => exact Option.isSome_iff_exists.mpr ⟨id, named⟩
  | promote cluster =>
      simp only [Call.plan] at planned
      split at planned
      · cases planned
      · next named => exact fun empty => named (String.isEmpty_iff.mpr empty)
  | _ => trivial

namespace Store

variable {s t : Store} {a : call.Answer}

/-- Calls that have an effect are valid. -/
theorem Effect.isValid (h : s.Effect call a t) : call.IsValid := by
  cases h with
  | cloudCreated unnamed | clusterCreated unnamed => exact unnamed
  | clusterUpdated named => exact Option.isSome_iff_exists.mpr ⟨_, named⟩
  | clusterPromoted named => exact named
  | _ => trivial

/-- Of all the failures that a store answers with, refusals are those of calls that are not
valid. -/
theorem answer_refused_iff {e : Failure} (failed : s.answer call = .error e) :
    (∃ why, e = .refused why) ↔ ¬ call.IsValid := by
  cases call with
  | listClouds | listClusters => cases failed
  | getCloud | getCluster | getManagedCluster | unmanage | deleteCluster =>
      simp only [answer] at failed
      split at failed <;> cases failed
      simp [Call.IsValid]
  | createCloud | createCluster =>
      simp only [answer] at failed
      split at failed
      · next named =>
        cases failed
        simpa [Call.IsValid] using Option.isSome_iff_ne_none.mp named
      · cases failed
  | updateCluster cloudId cluster =>
      simp only [answer] at failed
      split at failed
      · next unnamed =>
        cases failed
        simp [Call.IsValid, unnamed]
      · next id named =>
        split at failed <;> cases failed
        simp [Call.IsValid, named]
  | promote cluster =>
      simp only [answer] at failed
      split at failed
      · next empty =>
        cases failed
        simpa [Call.IsValid] using empty
      · next named =>
        split at failed <;> cases failed
        simpa [Call.IsValid] using named

/-- A store that can be reached refuses the calls that are not valid. -/
theorem perform_refused_iff (reachable : s.unavailable = false) :
    IsRefused (perform call s).1 ↔ ¬ call.IsValid := by
  have performs := performs call s
  generalize perform call s = p at performs
  obtain ⟨out, t⟩ := p
  cases performs with
  | unavailable off => cases reachable.symm.trans off
  | failed _ why =>
      rw [← answer_refused_iff why]
      simp [IsRefused]
  | done _ effect => simp [IsRefused, effect.isValid]

end Store

namespace Client

variable {σ : Type} {net : Network σ} {client : Client} {scope : Scope} {wire : Wire σ}

/-- A client whose token can be sent refuses the calls that are not valid. -/
theorem perform_refused_iff [Url.Idna] (sendable : Sendable scope) :
    IsRefused (client.perform net scope call wire).1 ↔ ¬ call.IsValid := by
  constructor
  · rintro ⟨why, refused⟩ valid
    obtain ⟨plan, planned⟩ := Call.exists_plan valid
    rcases refused_of_perform refused with unplanned | ⟨-, unsendable⟩
    · cases planned.symm.trans unplanned
    · exact unsendable sendable
  · intro invalid
    cases planned : call.plan with
    | ok plan => exact absurd (Call.isValid_of_plan planned) invalid
    | error why =>
        rw [perform_of_unplanned planned]
        exact ⟨why, rfl⟩

/-- What is refused leaves the wire as it is. -/
theorem wire_of_refused [Url.Idna] (refused : IsRefused (client.perform net scope call wire).1) :
    (client.perform net scope call wire).2 = wire := by
  obtain ⟨why, refused⟩ := refused
  cases planned : call.plan with
  | error why => rw [perform_of_unplanned planned]
  | ok plan =>
      rcases refused_of_perform refused with unplanned | ⟨-, unsendable⟩
      · cases planned.symm.trans unplanned
      · rw [perform_of_unsendable planned unsendable]

/-- A call that is planned begins with its request, if the URL is one that can be requested. -/
theorem exists_perform_begins [Url.Idna] {plan : Plan} {url : Url} (planned : call.plan = .ok plan)
    (sendable : Sendable scope)
    (parsed : Url.parse? (client.url scope.account plan.resource) = some url)
    (allowed : Order.canRequest url.withoutUserinfo = true) :
    ∃ request log, (client.order scope plan).request? = .ok request ∧
      request.url = url.withoutUserinfo ∧
      (client.perform net scope call wire).2.events = wire.events ++
        .exchange request ((net.server request wire.server).1.within
          (client.policyOf call).attemptTimeout) :: log := by
  have ordered : (client.order scope plan).request? = .ok _ :=
    request?_of_canRequest parsed allowed
  obtain ⟨log, events⟩ := Network.exists_attempts_begin ordered net (client.policyOf call) wire
  refine ⟨_, log, ordered, rfl, ?_⟩
  rw [perform_eq net wire planned sendable, policy_plan planned, Network.execute_eq]
  generalize net.attempts (client.policyOf call) (client.order scope plan) wire = tried at events ⊢
  obtain ⟨outcome, wire'⟩ := tried
  cases outcome with
  | error => exact events
  | ok => exact events

/-- Both inventories refuse the same calls, and they do so locally. A store that can be reached
refuses a call if and only if a client does whose token can be sent: that is, if the call is not
valid. The client leaves the wire as it is then, without a request and without a pause. Every other
call begins with its request, which the server is given, if the URL is one that can be requested. -/
theorem inventories_refuse_alike [Url.Idna] (net : Network σ) (client : Client) (scope : Scope)
    (call : Call) (wire : Wire σ) (s : Store) (reachable : s.unavailable = false)
    (sendable : Sendable scope) :
    let stored := Store.perform call s
    let asked := client.perform net scope call wire
    (IsRefused stored.1 ↔ IsRefused asked.1) ∧ (IsRefused asked.1 ↔ ¬ call.IsValid) ∧
    (IsRefused asked.1 → asked.2 = wire) ∧
    (¬ IsRefused asked.1 → ∃ plan, call.plan = .ok plan ∧
      ∀ url, Url.parse? (client.url scope.account plan.resource) = some url →
        Order.canRequest url.withoutUserinfo = true →
        ∃ request log, (client.order scope plan).request? = .ok request ∧
          request.url = url.withoutUserinfo ∧
          asked.2.events = wire.events ++
            .exchange request ((net.server request wire.server).1.within
              (client.policyOf call).attemptTimeout) :: log) := by
  intro stored asked
  have refused : IsRefused asked.1 ↔ ¬ call.IsValid := perform_refused_iff sendable
  refine ⟨?_, refused, wire_of_refused, fun carried => ?_⟩
  · rw [refused]
    exact Store.perform_refused_iff reachable
  · obtain ⟨plan, planned⟩ := Call.exists_plan (not_not.mp (mt refused.mpr carried))
    exact ⟨plan, planned, fun url => exists_perform_begins planned sendable⟩

/-- An update under the empty id is not refused, unlike a promotion: neither by the store, which
does not find the record, nor by the client, which sends it. -/
theorem update_under_empty_id_is_not_refused :
    letI := Url.Idna.asciiOnly
    let net : Network (List Cue) := ⟨Server.scripted, .recording⟩
    let client := Client.ofHost "http://h"
    let scope : Scope := ⟨"a", "token"⟩
    let call : Call := .updateCluster "c" { id := some "" }
    let wire : Wire (List Cue) := { server := [] }
    let built := client.url scope.account (.cloudCluster "c" "")
    (({} : Store).unavailable = false ∧ Sendable scope) ∧
    ¬ IsRefused (Store.perform call {}).1 ∧
    ∃ url, Url.parse? built = some url ∧ Order.canRequest url.withoutUserinfo = true ∧
      ∃ request log, request.url = url.withoutUserinfo ∧
        (client.perform net scope call wire).2.events = .exchange request .nothing :: log := by
  let := Url.Idna.asciiOnly
  intro net client scope call wire built
  have sendable : Sendable scope := show Header.isValue _ = true by decide
  obtain ⟨same, invalid, -, sent⟩ :=
    inventories_refuse_alike net client scope call wire {} rfl sendable
  have valid : call.IsValid := rfl
  have carried : ¬ IsRefused (client.perform net scope call wire).1 :=
    fun refused => invalid.mp refused valid
  refine ⟨⟨rfl, sendable⟩, mt same.mp carried, ?_⟩
  obtain ⟨plan, planned, begins⟩ := sent carried
  cases planned
  have some : (Url.parse? built).map (fun url => Order.canRequest url.withoutUserinfo) =
      some true := by decide +kernel
  obtain ⟨url, parsed, allowed⟩ := Option.map_eq_some_iff.mp some
  obtain ⟨request, log, -, same, events⟩ := begins url parsed allowed
  refine ⟨url, parsed, allowed, request, log, same, events.trans ?_⟩
  have silent (limit : Duration) :
      Delivery.within limit (net.server request wire.server).1 = .nothing := by
    show Delivery.within limit { arrival := .nothing } = .nothing
    simp only [Delivery.within, ite_self]
  rw [silent]
  rfl

end Client

end Inventory

end Enrollment
