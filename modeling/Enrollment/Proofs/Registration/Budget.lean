import Mathlib.Data.List.Forall2
import Enrollment.Proofs.Inventory.Traffic
import Enrollment.Proofs.Registration.Path

/-!
# What a registration may send

A registration makes its calls phase by phase and none of them twice, so what it sends is
bounded, whatever comes back. With the policies that a client has from the start, creations
and reads are attempted once, and the two writes that may be repeated three times. The only
pauses are then those in front of another attempt of an update or of a promotion.
-/

namespace Enrollment

open Inventory Http

namespace Inventory.Client

/-- The client has the policies that every client starts with. -/
structure Standard (client : Client) : Prop where
  reads : client.reads = .single
  writes : client.writes = .withAttempts 3

theorem standard_ofHost (hostUrl : String) : (ofHost hostUrl).Standard := ⟨rfl, rfl⟩

end Inventory.Client

namespace Registration

/-! ## Phases -/

section

variable (client : Client) (scope : Scope)
variable [Url.Idna]

/-- What is sent to resolve the cloud. -/
inductive CloudPhase : List Event → Prop
  | configured {id : String} {found : List Event}
      (read : Once (client.order scope (.read (.cloud id) true)) found) : CloudPhase found
  | unconfigured {listed created : List Event}
      (list : Once (client.order scope (.read .clouds false)) listed)
      (create : Once (client.order scope (.create .clouds CloudRecord.privateCloud.encode false))
        created) :
      CloudPhase (listed ++ created)

/-- What is sent to resolve the record of the cluster. -/
inductive ClusterPhase : List Event → Prop
  | configured {cloudId id : String} {found listed : List Event}
      (read : Once (client.order scope (.read (.cloudCluster cloudId id) true)) found)
      (list : Once (client.order scope (.read .clusters false)) listed) :
      ClusterPhase (found ++ listed)
  | byIdentity {cloudId body : String} {listed created : List Event}
      (list : Once (client.order scope (.read .clusters false)) listed)
      (create : Once (client.order scope (.create (.cloudClusters cloudId) body false)) created) :
      ClusterPhase (listed ++ created)

/-- What is sent to promote the record, which may be updated first. -/
inductive PromotionPhase : List Event → Prop
  | mk {cloudId id body sent : String} {updated promoted : List Event}
      (update : Thrice (client.order scope (.replace (.cloudCluster cloudId id) body)) updated)
      (promotion : Thrice (client.order scope (.create .managedClusters sent true)) promoted) :
      PromotionPhase (updated ++ promoted)

/-- What is sent by a registration, phase by phase. -/
inductive Phases : List Event → Prop
  | mk {home found promoted : List Event} (cloud : CloudPhase client scope home)
      (record : ClusterPhase client scope found)
      (promotion : PromotionPhase client scope promoted) : Phases (home ++ (found ++ promoted))

/-! Every phase may be left out. -/

theorem CloudPhase.nil : CloudPhase client scope [] := .unconfigured .unsent .unsent

theorem ClusterPhase.nil : ClusterPhase client scope [] := by
  have read : Once (client.order scope (.read (.cloudCluster "" "") true)) [] := .unsent
  exact .configured read .unsent

theorem PromotionPhase.nil : PromotionPhase client scope [] := by
  have update : Thrice (client.order scope (.replace (.cloudCluster "" "") "")) [] := .never
  have promotion : Thrice (client.order scope (.create .managedClusters "" true)) [] := .never
  exact .mk update promotion

end

section

variable {client : Client} {scope : Scope} {call : Call} {plan : Plan} {log : List Event}
variable {steps : List Step} {answer : Except Failure call.Answer}
variable [Url.Idna]

/-- A call that is not to be repeated is attempted once. -/
theorem Leaves.once (h : Leaves client (.call scope call answer) log) (std : client.Standard)
    (planned : call.plan = .ok plan) (single : plan.repeatable = false) :
    Once (client.order scope plan) log := by
  rcases h.series with rfl | ⟨other, outcome, same, series⟩
  · exact .unsent
  · cases planned.symm.trans same
    have policy : client.policy plan = .single := by simp [Client.policy, single, std.reads]
    rw [policy] at series
    exact series.once

/-- A call that may be repeated is attempted three times at most. -/
theorem Leaves.thrice (h : Leaves client (.call scope call answer) log) (std : client.Standard)
    (planned : call.plan = .ok plan) (again : plan.repeatable = true) :
    Thrice (client.order scope plan) log := by
  rcases h.series with rfl | ⟨other, outcome, same, series⟩
  · exact .never
  · cases planned.symm.trans same
    have policy : client.policy plan = .withAttempts 3 := by simp [Client.policy, again, std.writes]
    rw [policy] at series
    exact series.thrice

theorem CloudPath.phase {configured : Option String} {out : Except Failure String}
    (path : CloudPath scope configured steps out) (std : client.Standard)
    (logged : Logged client steps log) : CloudPhase client scope log := by
  cases path with
  | missing | configured => exact .configured ((logged_singleton_iff.mp logged).once std rfl rfl)
  | unlisted | found =>
      have list := (logged_singleton_iff.mp logged).once std rfl rfl
      rw [← List.append_nil log]
      exact .unconfigured list .unsent
  | uncreated | unnamed | created =>
      cases logged with
      | cons first more =>
          have create := (logged_singleton_iff.mp more).once std rfl rfl
          exact .unconfigured (first.once std rfl rfl) create

theorem ClusterPath.phase {cloudId identity name : String} {configured : Option String}
    {out : Except Failure Resolution}
    (path : ClusterPath scope cloudId configured identity name steps out) (std : client.Standard)
    (logged : Logged client steps log) : ClusterPhase client scope log := by
  cases path with
  | anonymous =>
      cases logged
      exact .nil client scope
  | configured _ _ path =>
      cases path with
      | missing | unfit | registered =>
          have read := (logged_singleton_iff.mp logged).once std rfl rfl
          rw [← List.append_nil log]
          exact .configured read .unsent
      | unlisted | rivalled | adopted =>
          cases logged with
          | cons first more =>
              have list := (logged_singleton_iff.mp more).once std rfl rfl
              exact .configured (first.once std rfl rfl) list
  | byIdentity _ _ path =>
      cases path with
      | unlisted | unfit | registered | adopted =>
          have list := (logged_singleton_iff.mp logged).once std rfl rfl
          have none : Once (client.order scope (.create (.cloudClusters cloudId) "" false)) [] :=
            .unsent
          rw [← List.append_nil log]
          exact .byIdentity list none
      | uncreated | created =>
          cases logged with
          | cons first more =>
              have create := (logged_singleton_iff.mp more).once std rfl rfl
              exact .byIdentity (first.once std rfl rfl) create

theorem PromotionPath.phase {s : Settings} {cloudId identity : String} {version : ClusterVersion}
    {resolution : Resolution} {out : Except Failure String}
    (path : PromotionPath scope s cloudId identity version resolution steps out)
    (std : client.Standard) (logged : Logged client steps log) :
    PromotionPhase client scope log := by
  have update {r : ClusterRecord} {answer : Except Failure Unit} {part : List Event}
      (h : Leaves client (.call scope (refreshCall s cloudId identity version r) answer) part) :
      ∃ cloudId id body,
        Thrice (client.order scope (.replace (.cloudCluster cloudId id) body)) part :=
    ⟨_, _, _, h.thrice std rfl rfl⟩
  have promotion {r : ClusterRecord} {answer : Except Failure Unit} {part : List Event}
      (h : Leaves client (.call scope (promotionCall s cloudId identity version r) answer) part) :
      ∃ sent, Thrice (client.order scope (.create .managedClusters sent true)) part := by
    rcases h.series with rfl | ⟨plan, _, planned, -⟩
    · exact ⟨"", .never⟩
    · have again := h.thrice std planned (Call.plan_repeatable planned)
      simp only [promotionCall, Call.plan] at planned
      split at planned <;> cases planned
      exact ⟨_, again⟩
  cases path with
  | unrefreshed =>
      obtain ⟨_, _, _, updated⟩ := update (logged_singleton_iff.mp logged)
      have none : Thrice (client.order scope (.create .managedClusters "" true)) [] := .never
      rw [← List.append_nil log]
      exact .mk updated none
  | refreshed =>
      cases logged with
      | cons first more =>
          obtain ⟨_, _, _, updated⟩ := update first
          obtain ⟨_, promoted⟩ := promotion (logged_singleton_iff.mp more)
          exact .mk updated promoted
  | fresh =>
      obtain ⟨_, promoted⟩ := promotion (logged_singleton_iff.mp logged)
      have none : Thrice (client.order scope (.replace (.cloudCluster cloudId "") "")) [] := .never
      exact .mk none promoted

/-- What a registration sends, it sends phase by phase. -/
theorem RegistrationPath.phases {cluster : LocalCluster} {s : Settings}
    {out : Except Failure String} (path : RegistrationPath cluster s steps out)
    (std : client.Standard) (logged : Logged client steps log) :
    ∃ scope, scope.account = s.account ∧ Phases client scope log := by
  cases path with
  | unacting | unidentified =>
      cases logged
      exact ⟨⟨s.account, ""⟩, rfl, .mk (.nil _ _) (.nil _ _) (.nil _ _)⟩
  | @homeless scope _ _ _ acting _ cloud =>
      have whole := Phases.mk (cloud.phase std logged) (.nil client scope) (.nil client scope)
      rw [List.append_nil, List.append_nil] at whole
      exact ⟨scope, account_of_knownScope acting, whole⟩
  | @unresolved scope _ _ _ _ _ acting _ cloud record
  | @registered scope _ _ _ _ _ acting _ cloud record
  | @unversioned scope _ _ _ _ _ _ acting _ cloud record =>
      obtain ⟨home, found, rfl, left, right⟩ := logged_append_iff.mp logged
      have whole := Phases.mk (cloud.phase std left) (record.phase std right) (.nil client scope)
      rw [List.append_nil] at whole
      exact ⟨scope, account_of_knownScope acting, whole⟩
  | promoted acting _ cloud record _ _ promotion =>
      obtain ⟨home, rest, rfl, left, others⟩ := logged_append_iff.mp logged
      obtain ⟨found, last, rfl, middle, right⟩ := logged_append_iff.mp others
      exact ⟨_, account_of_knownScope acting,
        .mk (cloud.phase std left) (record.phase std middle) (promotion.phase std right)⟩

end

/-! ## Reads -/

/-- Every read in the log is for one of the resources, and each of these is read once at most,
in their order. -/
def ReadsOnce [Url.Idna] (client : Client) (account : String) (resources : List Resource)
    (log : List Event) : Prop :=
  ∃ read : List Resource, read.Sublist resources ∧
    List.Forall₂ (client.Addresses account .get) read
      ((requests log).filter fun request => request.method = .get)

section

variable {client : Client} {account : String} {scope : Scope} {plan : Plan}
variable {xs ys : List Resource} {log log' : List Event}
variable [Url.Idna]

theorem ReadsOnce.mono (h : ReadsOnce client account xs log) (part : xs.Sublist ys) :
    ReadsOnce client account ys log := by
  obtain ⟨read, some, each⟩ := h
  exact ⟨read, some.trans part, each⟩

theorem ReadsOnce.append (left : ReadsOnce client account xs log)
    (right : ReadsOnce client account ys log') :
    ReadsOnce client account (xs ++ ys) (log ++ log') := by
  obtain ⟨read, some, each⟩ := left
  obtain ⟨read', some', each'⟩ := right
  refine ⟨read ++ read', some.append some', ?_⟩
  rw [requests_append, List.filter_append]
  exact List.rel_append each each'

/-- Where all that is sent is sent for a plan that writes, nothing is read. -/
theorem ReadsOnce.of_write (sent : ∀ {request arrival}, .exchange request arrival ∈ log →
    (client.order scope plan).request? = .ok request) (write : plan.method ≠ .get) :
    ReadsOnce client scope.account [] log := by
  have none : (requests log).filter (fun request => request.method = .get) = [] := by
    refine List.filter_eq_nil_iff.mpr fun request member get => ?_
    obtain ⟨arrival, inside⟩ := mem_requests.mp member
    have method := (Client.addresses_of_request? (sent inside)).1
    exact write (method.symm.trans (of_decide_eq_true get))
  refine ⟨[], .slnil, ?_⟩
  rw [none]
  exact .nil

theorem ReadsOnce.of_once {resource : Resource} {canBeMissing : Bool}
    (h : Once (client.order scope (.read resource canBeMissing)) log) :
    ReadsOnce client scope.account [resource] log := by
  cases h with
  | unsent => exact ⟨[], List.nil_sublist _, .nil⟩
  | @sent request _ ordered =>
      have addressed : client.Addresses scope.account .get resource request :=
        Client.addresses_of_request? ordered
      refine ⟨[resource], .refl _, ?_⟩
      simpa [addressed.1] using addressed

theorem CloudPhase.reads (h : CloudPhase client scope log) :
    ∃ id, ReadsOnce client scope.account [.cloud id, .clouds] log := by
  cases h with
  | @configured id _ read =>
      exact ⟨id, (ReadsOnce.of_once read).mono (List.sublist_append_left _ _)⟩
  | unconfigured list create =>
      have posts := ReadsOnce.of_write create.request_eq (by simp [Plan.create])
      have reads := (ReadsOnce.of_once list).append posts
      exact ⟨"", reads.mono (List.sublist_cons_self _ _)⟩

theorem ClusterPhase.reads (h : ClusterPhase client scope log) :
    ∃ cloudId id, ReadsOnce client scope.account [.cloudCluster cloudId id, .clusters] log := by
  cases h with
  | configured read list => exact ⟨_, _, (ReadsOnce.of_once read).append (.of_once list)⟩
  | byIdentity list create =>
      have posts := ReadsOnce.of_write create.request_eq (by simp [Plan.create])
      have reads := (ReadsOnce.of_once list).append posts
      exact ⟨"", "", reads.mono (List.sublist_cons_self _ _)⟩

theorem Phases.reads (h : Phases client scope log) :
    ∃ cloudId cloudId' id, ReadsOnce client scope.account
      [.cloud cloudId, .clouds, .cloudCluster cloudId' id, .clusters] log := by
  obtain ⟨cloud, record, promotion⟩ := h
  obtain ⟨cloudId, first⟩ := cloud.reads
  obtain ⟨cloudId', id, second⟩ := record.reads
  obtain ⟨update, promote⟩ := promotion
  have puts := ReadsOnce.of_write update.request_eq (by simp [Plan.replace])
  have posts := ReadsOnce.of_write promote.request_eq (by simp [Plan.create])
  exact ⟨cloudId, cloudId', id, first.append (second.append (puts.append posts))⟩

end

/-! ## Counts -/

section

variable {client : Client} {cluster : LocalCluster} {s : Settings} {steps : List Step}
variable {log : List Event} {out : Except Failure String}

/-- When requests of some kind are sent by calls of one kind only, a registration sends no
more of them than one such call may. -/
theorem RegistrationPath.atMost [Url.Idna] {policy : RetryPolicy} {P : Request → Prop}
    (path : RegistrationPath cluster s steps out) (operation : String)
    (logged : Logged client steps log)
    (only : ∀ {scope call request}, client.Sends scope call request → P request →
      call.operation = operation ∧ client.policyOf call = policy) :
    AtMost policy.attempts P log := by
  refine (logged.atMost only).mono ?_
  have once := path.count_operation_le_one operation
  exact (Nat.mul_le_mul_right _ once).trans (Nat.le_of_eq (Nat.one_mul _))

theorem RegistrationPath.posts_cloud [Url.Idna] (path : RegistrationPath cluster s steps out)
    (logged : Logged client steps log) :
    AtMost client.reads.attempts
      (fun request => ∃ account, client.Addresses account .post .clouds request) log := by
  refine path.atMost "CreateCloud" logged ?_
  rintro scope call request sends ⟨account, posted⟩
  obtain ⟨cloud, rfl⟩ := sends.of_post_clouds posted
  exact ⟨rfl, rfl⟩

theorem RegistrationPath.posts_cluster [Url.Idna] (path : RegistrationPath cluster s steps out)
    (logged : Logged client steps log) :
    AtMost client.reads.attempts (fun request =>
      ∃ account cloudId, client.Addresses account .post (.cloudClusters cloudId) request) log := by
  refine path.atMost "CreateCluster" logged ?_
  rintro scope call request sends ⟨account, cloudId, posted⟩
  obtain ⟨_, _, rfl⟩ := sends.of_post_cloudClusters posted
  exact ⟨rfl, rfl⟩

theorem RegistrationPath.puts [Url.Idna] (path : RegistrationPath cluster s steps out)
    (logged : Logged client steps log) :
    AtMost client.writes.attempts (fun request => request.method = .put) log := by
  refine path.atMost "UpdateCluster" logged ?_
  intro scope call request sends put
  obtain ⟨_, _, rfl⟩ := sends.of_put put
  exact ⟨rfl, rfl⟩

theorem RegistrationPath.posts_managed [Url.Idna] (path : RegistrationPath cluster s steps out)
    (logged : Logged client steps log) :
    AtMost client.writes.attempts (fun request =>
      ∃ account, client.Addresses account .post .managedClusters request) log := by
  refine path.atMost "CreateManagedCluster" logged ?_
  rintro scope call request sends ⟨account, posted⟩
  obtain ⟨_, rfl⟩ := sends.of_post_managedClusters posted
  exact ⟨rfl, rfl⟩

/-! ## Creation or update -/

theorem ClusterPath.operations_of_adopted {scope : Scope} {cloudId identity name : String}
    {configured : Option String} {r : ClusterRecord}
    (path : ClusterPath scope cloudId configured identity name steps (.ok (.adopted r))) :
    some "CreateCluster" ∉ steps.map Step.operation? := by
  cases path with
  | configured _ _ path =>
      cases path
      simp [Step.operation?, Call.operation]
  | byIdentity _ _ path =>
      cases path
      simp [Step.operation?, Call.operation]

theorem PromotionPath.operations_of_created {scope : Scope} {cloudId identity : String}
    {version : ClusterVersion} {r : ClusterRecord}
    (path : PromotionPath scope s cloudId identity version (.created r) steps out) :
    some "UpdateCluster" ∉ steps.map Step.operation? := by
  cases path
  simp [Step.operation?, Call.operation, promotionCall]

/-- A registration that has a record created does not update one. -/
theorem RegistrationPath.not_updated (path : RegistrationPath cluster s steps out)
    (created : some "CreateCluster" ∈ steps.map Step.operation?) :
    some "UpdateCluster" ∉ steps.map Step.operation? := by
  intro updated
  cases path with
  | unacting | unidentified => exact List.not_mem_nil updated
  | homeless _ _ cloud => exact absurd (cloud.operations.subset updated) (by decide)
  | unresolved _ _ cloud record | registered _ _ cloud record | unversioned _ _ cloud record =>
      rw [List.map_append] at updated
      rcases List.mem_append.mp updated with updated | updated
      · exact absurd (cloud.operations.subset updated) (by decide)
      · exact absurd (record.operations.subset updated) (by decide)
  | @promoted _ _ _ _ _ _ resolution _ _ _ _ cloud record unregistered _ promotion =>
      simp only [List.map_append, List.mem_append] at created updated
      cases resolution with
      | registered => cases unregistered
      | adopted =>
          rcases created with created | created | created
          · exact absurd (cloud.operations.subset created) (by decide)
          · exact record.operations_of_adopted created
          · exact absurd (promotion.operations.subset created) (by decide)
      | created =>
          rcases updated with updated | updated | updated
          · exact absurd (cloud.operations.subset updated) (by decide)
          · exact absurd (record.operations.subset updated) (by decide)
          · exact promotion.operations_of_created updated

end

variable [Url.Idna]

/-! ## The budget -/

/-- What a registration sends at most, and in which order. -/
structure Budget (client : Client) (account : String) (log : List Event) : Prop where
  phases : ∃ scope, scope.account = account ∧ Phases client scope log
  reads : ∃ cloudId cloudId' id, ReadsOnce client account
    [.cloud cloudId, .clouds, .cloudCluster cloudId' id, .clusters] log
  clouds : AtMost 1 (fun request =>
    ∃ account', client.Addresses account' .post .clouds request) log
  clusters : AtMost 1 (fun request =>
    ∃ account' cloudId, client.Addresses account' .post (.cloudClusters cloudId) request) log
  puts : AtMost 3 (fun request => request.method = .put) log
  promotions : AtMost 3 (fun request =>
    ∃ account', client.Addresses account' .post .managedClusters request) log
  created : ∀ request ∈ requests log,
    (∃ account' cloudId, client.Addresses account' .post (.cloudClusters cloudId) request) →
    ∀ other ∈ requests log, other.method ≠ .put

theorem RegistrationPath.budget {client : Client} {cluster : LocalCluster} {s : Settings}
    {steps : List Step} {log : List Event} {out : Except Failure String}
    (path : RegistrationPath cluster s steps out) (std : client.Standard)
    (logged : Logged client steps log) : Budget client s.account log := by
  obtain ⟨scope, acting, phases⟩ := path.phases std logged
  have reads : client.reads.attempts = 1 := by rw [std.reads]; rfl
  have writes : client.writes.attempts = 3 := by rw [std.writes]; rfl
  constructor
  case phases => exact ⟨scope, acting, phases⟩
  case reads => exact acting ▸ phases.reads
  case clouds => exact reads ▸ path.posts_cloud logged
  case clusters => exact reads ▸ path.posts_cluster logged
  case puts => exact writes ▸ path.puts logged
  case promotions => exact writes ▸ path.posts_managed logged
  case created =>
    rintro request member ⟨account, cloudId, posted⟩ other member' put
    obtain ⟨scope, call, answer, inside, sends⟩ := logged.sends member
    obtain ⟨scope', call', answer', inside', sends'⟩ := logged.sends member'
    obtain ⟨_, _, rfl⟩ := sends.of_post_cloudClusters posted
    obtain ⟨_, _, rfl⟩ := sends'.of_put put
    have created := List.mem_map_of_mem (f := Step.operation?) inside
    have updated := List.mem_map_of_mem (f := Step.operation?) inside'
    exact path.not_updated created updated

/-- The request budget of a registration. Whatever comes back to a client with the standard
policies, a registration posts a cloud and a cluster once at most, reads each resource once at
most, and puts and promotes three times at most; it puts nothing when it has posted a cluster.
It sends all of this phase by phase. A put and a promotion are repeated only after they have
failed, one second and two seconds later and as they were, and there are no other pauses. -/
theorem register_keeps_budget {σ : Type} (net : Network σ) (hostUrl : String)
    (cluster : LocalCluster) (s : Settings) (wire : Wire σ) :
    let client := Client.ofHost hostUrl
    ∃ log, ((register cluster s).run.run (overHttp net client) wire).2.events =
        wire.events ++ log ∧ Budget client s.account log := by
  intro client
  obtain ⟨steps, log, takes, events, logged⟩ :=
    exists_takes_logged net client (register cluster s).run wire
  exact ⟨log, events, (register_takes takes).budget (Client.standard_ofHost hostUrl) logged⟩

end Registration

end Enrollment
