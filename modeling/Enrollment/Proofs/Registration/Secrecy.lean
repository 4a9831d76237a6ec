import Enrollment.Proofs.Registration.Pairing

/-!
# What becomes of the token

The token is sent with every request, and goes nowhere else. Two runs of an operation that hold
different tokens, and are delivered the same, can only be told apart by the authorization headers
of their requests: they come to the same result, make the same pauses, and send the same requests
but for that header. The tokens only have to be such that a header may hold them.
-/

namespace Enrollment

open Inventory Http

namespace Http.Request

/-- The request without the headers that carry a token. -/
def masked (request : Request) : Request :=
  { request with headers := request.headers.filter (·.1 ≠ Header.authorization) }

/-- The values of the headers that carry a token. -/
def authorizations (request : Request) : List String :=
  (request.headers.filter (·.1 = Header.authorization)).map (·.2)

end Http.Request

/-- The cluster as it is when its secret holds this token. -/
def LocalCluster.holding (cluster : LocalCluster) (token : String) : LocalCluster :=
  { cluster with apiToken := fun _ => .ok token }

namespace Inventory.Client

/-- One request, sent under the token `a` and under the token `b`: nothing but the header that
carries the token differs, and there is one such header in each. -/
structure Veiled (a b : String) (request request' : Request) : Prop where
  masked : request.masked = request'.masked
  first : request.authorizations = [bearer a]
  second : request'.authorizations = [bearer b]

variable {a b account : String}

/-- A header may hold a token if and only if it may hold it behind its mark. -/
theorem sendable_iff : Sendable ⟨account, a⟩ ↔ Header.isValue a = true := by
  have whole : (bearer a).toList = "Bearer ".toList ++ a.toList := by
    simp only [bearer, String.toList_append]
    rfl
  have mark : Header.isValue "Bearer " = true := by decide
  rw [Header.isValue] at mark
  rw [Sendable, Header.isValue, whole, List.all_append, mark, Bool.true_and, Header.isValue]

theorem veiled_order [Url.Idna] (client : Client) (account a b : String) (plan : Plan) :
    (client.order ⟨account, a⟩ plan).Alike (Veiled a b) (client.order ⟨account, b⟩ plan) where
  url := rfl
  requests := by
    unfold Order.request?
    have url : (client.order ⟨account, a⟩ plan).url = (client.order ⟨account, b⟩ plan).url := rfl
    rw [url]
    cases Url.parse? (client.order ⟨account, b⟩ plan).url with
    | none => exact .error _
    | some url =>
        dsimp only
        split
        · exact .ok ⟨⟨rfl, rfl, rfl⟩, rfl⟩
        · exact .error _

end Inventory.Client

namespace Registration

/-- Two runs that hold the tokens `a` and `b`, and can only be told apart by them. -/
structure Undisclosed {α : Type} (a b : String) (run run' : Except Failure α × Wire Nat) :
    Prop where
  result : run.1 = run'.1
  pauses : run.2.pauses = run'.2.pauses
  requests : List.Forall₂ (Client.Veiled a b) (requests run.2.events) (requests run'.2.events)
  now : run.2.now = run'.2.now

/-- Two runs for the same account under different tokens. -/
def underTokens (a b : String) : Likeness where
  scopes scope scope' := ∃ account, scope = ⟨account, a⟩ ∧ scope' = ⟨account, b⟩
  answers _ := Eq

section

variable {a b : String} {client : Client} {deliveries : Nat → Delivery} {pacing : Pacing}
variable {started : Instant} {cluster : LocalCluster} {s : Settings}

theorem plain_underTokens : (underTokens a b).Plain := fun _ _ _ _ same => same

theorem listsFor_underTokens (identity : String) : (underTokens a b).ListsFor identity := by
  rintro clusters _ rfl
  exact rfl

theorem clustersAlike_holding (cluster : LocalCluster) (s : Settings) :
    ClustersAlike (underTokens a b) s (cluster.holding a) (cluster.holding b) where
  scope := by
    unfold knownScope
    split
    · exact .error _
    · exact .ok ⟨s.account, rfl, rfl⟩
  version := rfl
  identity := rfl

/-- Calls under different tokens are made, delivered and answered alike. -/
theorem inStep_underTokens [Url.Idna] (valid : Header.isValue a = true)
    (valid' : Header.isValue b = true) (client : Client) (deliveries : Nat → Delivery)
    (pacing : Pacing) :
    Flow.InStep (underTokens a b) (Wire.InStep (Client.Veiled a b))
      (overHttp (.delivering deliveries pacing) client)
      (overHttp (.delivering deliveries pacing) client) where
  call := by
    rintro _ _ c wire wire' ⟨account, rfl, rfl⟩ inStep
    have acts : client.ActsAlike (Client.Veiled a b) ⟨account, a⟩ ⟨account, b⟩ :=
      { account := rfl
        sendable := iff_of_true (Client.sendable_iff.mpr valid) (Client.sendable_iff.mpr valid')
        orders := client.veiled_order account a b }
    exact Client.perform_inStep_of_same (fun _ => rfl) acts inStep fun _ _ _ => rfl
  now inStep := inStep.now
  pause time := Network.inStep_pause deliveries deliveries pacing time

/-- Operations that are alike under different tokens do not disclose them. -/
theorem undisclosed [Url.Idna] {α : Type} {x y : Procedure α} (valid : Header.isValue a = true)
    (valid' : Header.isValue b = true) (alike : Procedure.Alike (underTokens a b) Eq x y) :
    Undisclosed a b (delivered client deliveries pacing started x)
      (delivered client deliveries pacing started y) := by
  have begun : Wire.InStep (Client.Veiled a b) { server := 0, now := started }
      { server := 0, now := started } := ⟨rfl, rfl, .nil⟩
  obtain ⟨result, ended⟩ :=
    Flow.Alike.run (inStep_underTokens valid valid' client deliveries pacing) alike begun
  exact
    { result := result.eq
      pauses := waits_eq_of_alike ended.events
      requests := requests_of_alike ended.events
      now := ended.now }

/-- The token is not disclosed. Two registrations that hold different tokens and are delivered the
same have the same result, down to the text of a failure, and make the same pauses. They send the
same requests but for the authorization header, which is there once in each request, with the token
of the run; and the scope is shown alike. So it is with an unregistration, and with the question
whether a cluster is managed. -/
theorem token_is_not_disclosed [Url.Idna] (client : Client) (deliveries : Nat → Delivery)
    (pacing : Pacing) (started : Instant) (cluster : LocalCluster) (s : Settings) {a b : String}
    (valid : Header.isValue a = true) (valid' : Header.isValue b = true) :
    let run {α : Type} (operation : LocalCluster → Procedure α) (token : String) :=
      delivered client deliveries pacing started (operation (cluster.holding token))
    Undisclosed a b (run (register · s) a) (run (register · s) b) ∧
      (∀ poll clusterId, Undisclosed a b (run (unregister · s poll clusterId) a)
        (run (unregister · s poll clusterId) b)) ∧
      (∀ clusterId, Undisclosed a b (run (isManaged · s clusterId) a)
        (run (isManaged · s clusterId) b)) ∧
      Scope.shown ⟨s.account, a⟩ = Scope.shown ⟨s.account, b⟩ := by
  intro run
  have clusters : ClustersAlike (underTokens a b) s (cluster.holding a) (cluster.holding b) :=
    clustersAlike_holding cluster s
  refine ⟨?_, ?_, ?_, rfl⟩
  · apply undisclosed valid valid'
    apply alike_register plain_underTokens _ clusters
    exact fun identity _ => listsFor_underTokens identity
  · intro poll clusterId
    exact undisclosed valid valid' (alike_unregister plain_underTokens clusters poll clusterId)
  · intro clusterId
    exact undisclosed valid valid' (alike_isManaged plain_underTokens clusters clusterId)

/-- A registration whose only request is answered by a failure of the server. -/
theorem failed_registration_discloses_nothing :
    letI := Url.Idna.asciiOnly
    let cluster : LocalCluster := ⟨fun _ => .ok "", .ok {}, .ok "identity"⟩
    let run (token : String) :=
      delivered (Client.ofHost "http://h")
        (fun _ => { arrival := .reply ⟨.serviceUnavailable, []⟩ }) .virtual Instant.start
        (register (cluster.holding token) { account := "a" })
    (Header.isValue "first" = true ∧ Header.isValue "second" = true) ∧
      Undisclosed "first" "second" (run "first") (run "second") := by
  let := Url.Idna.asciiOnly
  intro cluster run
  have valid : Header.isValue "first" = true := by decide
  have valid' : Header.isValue "second" = true := by decide
  have runs := token_is_not_disclosed (Client.ofHost "http://h")
    (fun _ => { arrival := .reply ⟨.serviceUnavailable, []⟩ }) .virtual Instant.start cluster
    { account := "a" } valid valid'
  exact ⟨⟨valid, valid'⟩, runs.1⟩

end

end Registration

end Enrollment
