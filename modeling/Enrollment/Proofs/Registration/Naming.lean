import Enrollment.CommandLine
import Enrollment.Proofs.Inventory.Urls
import Enrollment.Proofs.Registration.Operation
import Enrollment.Proofs.Registration.Yield
import Enrollment.Proofs.Unregistration.Path

/-!
# Requests about an empty id

An empty id in a path turns a request about one record into one about the collection. The ids
that a registration looks for and creates under are never empty, and neither is the cloud that
a cluster is deleted from. Two kinds of ids are taken as they come: the one that an operator
gives for a cluster, and the one of a pending record that the inventory shows. The empty id is
asked about only where one of these is empty, and a registration does not succeed then.
-/

namespace Enrollment

open Http

namespace Inventory

/-- The ids in the path of the resource that a call is carried out on. -/
def Call.ids : Call → List String
  | listClouds | createCloud _ | listClusters | promote _ => []
  | getCloud id | createCluster id _ | getManagedCluster id | unmanage id => [id]
  | getCluster cloudId clusterId | deleteCluster cloudId clusterId => [cloudId, clusterId]
  | updateCluster cloudId cluster => [cloudId, cluster.idText]

theorem Call.ids_of_plan {call : Call} {plan : Plan} (planned : call.plan = .ok plan) :
    plan.resource.ids = call.ids := by
  cases call with
  | createCloud | createCluster | promote =>
      simp only [Call.plan] at planned
      split at planned <;> cases planned
      rfl
  | updateCluster cloudId cluster =>
      simp only [Call.plan] at planned
      split at planned
      · cases planned
      · next id named =>
        cases planned
        simp [ids, Plan.replace, Resource.ids, ClusterRecord.idText, named]
  | _ =>
      cases planned
      rfl

end Inventory

namespace Registration

open Inventory

/-- The ids in the path of what a step asks about. -/
def Step.ids : Step → List String
  | .call _ c _ => c.ids
  | _ => []

section

variable {client : Client} {cluster : LocalCluster} {s : Settings} {scope : Scope}
variable {identity id cloudId clusterId name : String} {configured : Option String}
variable {steps : List Step} {log : List Event} {step : Step} {request : Request}

/-! ## Registrations -/

theorem ne_empty_of_configured (given : configuredId? configured = some id) : id ≠ "" := by
  rintro rfl
  simp [configuredId?, Option.filter_eq_some_iff] at given

theorem ne_empty_of_privateCloud {clouds : List CloudRecord} {cloud : CloudRecord}
    (present : privateCloud? clouds = some cloud) (named : cloud.id = some id) : id ≠ "" := by
  have shown := List.find?_some present
  rintro rfl
  simp [CloudRecord.hasId, named] at shown

theorem CloudPath.named {out : Except Failure String}
    (path : CloudPath scope configured steps out) : ∀ step ∈ steps, "" ∉ step.ids := by
  cases path with
  | missing given | configured given =>
      simpa [Step.ids, Call.ids, eq_comm] using ne_empty_of_configured given
  | _ => simp [Step.ids, Call.ids]

theorem CloudPath.yields_named (path : CloudPath scope configured steps (.ok cloudId)) :
    cloudId ≠ "" := by
  cases path with
  | configured given => exact ne_empty_of_configured given
  | created _ _ named => exact ne_empty_of_configured named
  | @found clouds cloud _ present =>
      have shown := List.find?_some present
      cases named : cloud.id with
      | none => simp [CloudRecord.hasId, named] at shown
      | some id => exact ne_empty_of_privateCloud present named

theorem ClusterPath.named {out : Except Failure Resolution} (home : cloudId ≠ "")
    (path : ClusterPath scope cloudId configured identity name steps out) :
    ∀ step ∈ steps, "" ∉ step.ids := by
  have home : "" ≠ cloudId := home.symm
  cases path with
  | anonymous => simp
  | configured _ given path =>
      have known := (ne_empty_of_configured given).symm
      cases path <;> simp [Step.ids, Call.ids, home, known]
  | byIdentity _ _ path => cases path <;> simp [Step.ids, Call.ids, home]

/-- The step updates a pending record that has been read without an id. -/
def UpdatesUnnamed (cluster : LocalCluster) (s : Settings) (before : List Step) : Step → Prop
  | .call scope (.updateCluster cloudId sent) _ =>
    scope.account = s.account ∧ cloudId ≠ "" ∧ sent.id = some "" ∧
      ∃ identity r part, cluster.identity = .ok identity ∧ r.standing identity = .promotable ∧
        r.idText = "" ∧ part ⊆ before ∧ ReadBy scope s.clusterId r part
  | _ => False

/-- The empty id is in the path of a step only when the step updates an unnamed record. -/
def Named (cluster : LocalCluster) (s : Settings) (before : List Step) (step : Step) : Prop :=
  "" ∈ step.ids → UpdatesUnnamed cluster s before step

theorem Named.append (front before : List Step) (step : Step) (h : Named cluster s before step) :
    Named cluster s (front ++ before) step := by
  intro empty
  have updates := h empty
  unfold UpdatesUnnamed at updates ⊢
  split at updates
  · obtain ⟨acting, home, unnamed, identity, r, part, self, fit, named, within, read⟩ := updates
    exact ⟨acting, home, unnamed, identity, r, part, self, fit, named,
      List.subset_append_of_subset_right front within, read⟩
  · exact updates.elim

theorem guarded_named (named : ∀ step ∈ steps, "" ∉ step.ids) :
    Guarded (Named cluster s) steps := by
  rintro before step after rfl empty
  exact absurd empty (named step (List.mem_append_right before List.mem_cons_self))

/-- A record that is to be promoted, and was there before, has been read. -/
theorem ClusterPath.readBy_adopted {r : ClusterRecord}
    (path : ClusterPath scope cloudId configured identity name steps (.ok (.adopted r))) :
    r.standing identity = .promotable ∧ ∃ part, part ⊆ steps ∧ ReadBy scope configured r part := by
  cases path with
  | configured _ given path =>
      cases path with
      | adopted standing =>
          exact ⟨standing, _, List.cons_subset_cons _ (List.nil_subset _), .id given⟩
  | byIdentity _ _ path =>
      cases path with
      | adopted present standing =>
          exact ⟨standing, _, List.Subset.refl _, .listing (List.mem_of_find?_eq_some present)⟩

theorem cloudOf_ne_empty {r : ClusterRecord} (home : cloudId ≠ "") : cloudOf r cloudId ≠ "" := by
  unfold cloudOf
  split
  · exact home
  · next recorded => exact fun empty => recorded (String.isEmpty_iff.mpr empty)

/-- A promotion asks about the empty id only to update a record without one. -/
theorem PromotionPath.updates {version : ClusterVersion} {resolution : Resolution}
    {out : Except Failure String} (home : cloudId ≠ "")
    (path : PromotionPath scope s cloudId identity version resolution steps out) :
    ∀ step ∈ steps, "" ∈ step.ids → ∃ r answer, resolution = .adopted r ∧ r.idText = "" ∧
      step = .call scope (refreshCall s cloudId identity version r) answer := by
  have refresh (r : ClusterRecord)
      (empty : "" ∈ (refreshCall s cloudId identity version r).ids) : r.idText = "" := by
    have either : "" = cloudOf r cloudId ∨ "" = r.idText := by
      simpa [refreshCall, Call.ids, Registration.refreshed, ClusterRecord.idText] using empty
    exact (either.resolve_left (cloudOf_ne_empty home).symm).symm
  intro step member empty
  cases path with
  | @unrefreshed r =>
      obtain rfl := List.mem_singleton.mp member
      exact ⟨r, _, rfl, refresh r empty, rfl⟩
  | @refreshed r =>
      rcases List.mem_cons.mp member with rfl | member
      · exact ⟨r, _, rfl, refresh r empty, rfl⟩
      · obtain rfl := List.mem_singleton.mp member
        exact absurd empty List.not_mem_nil
  | fresh =>
      obtain rfl := List.mem_singleton.mp member
      exact absurd empty List.not_mem_nil

theorem PromotionPath.guarded_named {version : ClusterVersion} {resolution : Resolution}
    {second : List Step} {out : Except Failure String} (acting : scope.account = s.account)
    (self : cluster.identity = .ok identity) (home : cloudId ≠ "")
    (resolved : ClusterPath scope cloudId s.clusterId identity name second (.ok resolution))
    (path : PromotionPath scope s cloudId identity version resolution steps out) :
    Guarded (fun before => Named cluster s (second ++ before)) steps := by
  rintro before step after rfl empty
  obtain ⟨r, answer, rfl, unnamed, rfl⟩ :=
    path.updates home step (List.mem_append_right before List.mem_cons_self) empty
  obtain ⟨fit, part, within, read⟩ := resolved.readBy_adopted
  exact ⟨acting, cloudOf_ne_empty home, congrArg some unnamed, identity, r, part, self, fit,
    unnamed, List.subset_append_of_subset_left before within, read⟩

/-- A registration asks about the empty id only to update a pending record that has been read
without an id. -/
theorem RegistrationPath.guarded_named {out : Except Failure String}
    (path : RegistrationPath cluster s steps out) : Guarded (Named cluster s) steps := by
  cases path with
  | unacting | unidentified => exact Guarded.nil
  | homeless _ _ cloud => exact Registration.guarded_named cloud.named
  | unresolved _ _ cloud record | registered _ _ cloud record | unversioned _ _ cloud record =>
      refine Registration.guarded_named fun step member => ?_
      rcases List.mem_append.mp member with member | member
      · exact cloud.named step member
      · exact record.named cloud.yields_named step member
  | promoted acting self cloud record _ _ promotion =>
      have home := cloud.yields_named
      refine Guarded.append_iff.mpr ⟨Registration.guarded_named cloud.named,
        Guarded.append_iff.mpr ⟨?_, ?_⟩⟩
      · exact (Registration.guarded_named (record.named home)).mono fun _ _ => Named.append _ _ _
      · have third := promotion.guarded_named (account_of_knownScope acting) self home record
        exact third.mono fun _ _ => Named.append _ _ _

/-- A registration that succeeds has not asked about the empty id at all. -/
theorem RegistrationPath.named_of_ok [Url.Idna] (path : RegistrationPath cluster s steps (.ok id))
    (logged : Logged client steps log) : ∀ step ∈ steps, "" ∉ step.ids := by
  cases path with
  | registered _ _ cloud record =>
      intro step member
      rcases List.mem_append.mp member with member | member
      · exact cloud.named step member
      · exact record.named cloud.yields_named step member
  | @promoted scope identity cloudId first second third resolution _ _ _ _ cloud record _ _
      promotion =>
      have home := cloud.yields_named
      obtain ⟨_, back, -, -, behind⟩ := logged_append_iff.mp logged
      obtain ⟨_, last, -, -, logged⟩ := logged_append_iff.mp behind
      intro step member
      rcases List.mem_append.mp member with member | member
      · exact cloud.named step member
      rcases List.mem_append.mp member with member | member
      · exact record.named home step member
      intro empty
      obtain ⟨r, answer, rfl, unnamed, -⟩ := promotion.updates home step member empty
      exact promotion.named logged (promotion.yields.trans unnamed)

/-! ## Unregistrations -/

/-- The steps of a poll are those of its attempts, readings of the clock and waits. -/
theorem PollPath.forall_mem {α : Type} {x : Procedure α} {interval : Duration}
    {out : Except PollFailure α} {P : Step → Prop} (path : PollPath x interval steps out)
    (attempt : x.run.Only P) (shown : ∀ t, P (.now t)) (waited : P (.pause interval)) :
    ∀ step ∈ steps, P step := by
  induction path with
  | exhausted => exact fun _ member => absurd member List.not_mem_nil
  | succeeded round => exact attempt _ _ round
  | abandoned round =>
      intro step member
      rcases List.mem_append.mp member with member | member
      · exact attempt _ _ round step member
      · exact List.mem_singleton.mp member ▸ shown _
  | again round _ ih =>
      intro step member
      rcases List.mem_append.mp member with member | member
      · exact attempt _ _ round step member
      rcases List.mem_cons.mp member with rfl | member
      · exact shown _
      rcases List.mem_cons.mp member with rfl | member
      · exact waited
      · exact ih step member

/-- A poll that succeeds does so in a last round. -/
theorem PollPath.last_round {α : Type} {x : Procedure α} {interval : Duration} {a : α}
    (path : PollPath x interval steps (.ok a)) : ∃ round, x.run.Takes round (.ok a) := by
  generalize outcome : Except.ok a = out at path
  induction path with
  | exhausted | abandoned => cases outcome
  | succeeded round =>
      cases outcome
      exact ⟨_, round⟩
  | again _ _ ih => exact ih outcome

/-- The cloud that a poll has come to has an id. -/
theorem PollPath.home_named {interval : Duration} {cloud : Option CloudRecord}
    (path : PollPath (findPrivateCloud scope) interval steps (.ok cloud))
    (home : cloud.bind (·.id) = some cloudId) : cloudId ≠ "" := by
  obtain ⟨round, takes⟩ := path.last_round
  obtain ⟨answer, -, found⟩ := findPrivateCloud_takes takes
  obtain ⟨r, rfl, named⟩ := Option.bind_eq_some_iff.mp home
  cases answer with
  | error e => cases found
  | ok clouds => exact ne_empty_of_privateCloud (Except.ok.inj found).symm named

theorem only_findPrivateCloud (scope : Scope) :
    (findPrivateCloud scope).run.Only fun step => "" ∉ step.ids := by
  rintro steps out takes step member
  obtain ⟨answer, rfl, -⟩ := findPrivateCloud_takes takes
  obtain rfl := List.mem_singleton.mp member
  exact List.not_mem_nil

/-- An unregistration asks about no empty id but the one that it is given. -/
theorem UnregistrationPath.named {interval : Duration} {out : Except Failure Unit}
    (path : UnregistrationPath cluster s interval clusterId steps out) :
    ∀ step ∈ steps, "" ∈ step.ids → clusterId = "" := by
  have clock (started : Instant) : "" ∈ (Step.now started).ids → clusterId = "" :=
    fun empty => absurd empty List.not_mem_nil
  have polls {scope : Scope} {polled : List Step}
      {found : Except PollFailure (Option CloudRecord)}
      (poll : PollPath (findPrivateCloud scope) interval polled found) :
      ∀ step ∈ polled, "" ∈ step.ids → clusterId = "" := by
    intro step member empty
    have named := poll.forall_mem (only_findPrivateCloud scope) (fun _ => List.not_mem_nil)
      List.not_mem_nil
    exact absurd empty (named step member)
  cases path with
  | unacting => exact fun _ member => absurd member List.not_mem_nil
  | unlisted _ poll | homeless _ poll => exact List.forall_mem_cons.mpr ⟨clock _, polls poll⟩
  | kept _ poll =>
      refine List.forall_mem_cons.mpr ⟨clock _, List.forall_mem_append.mpr ⟨polls poll, ?_⟩⟩
      simp [Step.ids, Call.ids, eq_comm]
  | unmanaged _ poll home =>
      refine List.forall_mem_cons.mpr ⟨clock _, List.forall_mem_append.mpr ⟨polls poll, ?_⟩⟩
      simp [Step.ids, Call.ids, eq_comm, poll.home_named home]

theorem isManaged_named : (isManaged cluster s clusterId).run.Only fun step =>
    "" ∈ step.ids → clusterId = "" := by
  refine Procedure.only_bind (only_scopeOf cluster s) fun scope => ?_
  refine Procedure.only_bind (Procedure.only_call fun _ empty => ?_) fun _ => Procedure.only_pure _
  exact (List.mem_singleton.mp empty).symm

end

/-! ## Over HTTP -/

section

variable {σ α : Type}
variable [Url.Idna]

/-- The request has been sent by one of the steps, for this resource. -/
def SentFor (client : Client) (steps : List Step) (resource : Resource) (request : Request) :
    Prop :=
  ∃ scope call answer plan, .call scope call answer ∈ steps ∧ call.plan = .ok plan ∧
    plan.resource = resource ∧ (client.order scope plan).request? = .ok request

/-- Every request that the flow sends is for a resource as `P` says, of the log in front of the
request too. -/
def Asks (net : Network σ) (client : Client) (x : Flow α) (wire : Wire σ)
    (P : List Event → Request → Resource → Prop) : Prop :=
  ∃ log, (x.run (overHttp net client) wire).2.events = wire.events ++ log ∧
    EachSent log fun before request => ∃ resource,
      SentFor client (x.trace (overHttp net client) wire) resource request ∧
        P before request resource

variable {net : Network σ} {client : Client} {x : Flow α} {wire : Wire σ}

/-- What a flow asks for is what its steps do. -/
theorem asks_of {P : List Event → Request → Resource → Prop}
    (h : ∀ log, Logged client (x.trace (overHttp net client) wire) log →
      ∀ front scope call answer back passed before plan request,
        x.trace (overHttp net client) wire = front ++ .call scope call answer :: back →
        Logged client front passed → passed <+: before → call.plan = .ok plan →
        (client.order scope plan).request? = .ok request → P before request plan.resource) :
    Asks net client x wire P := by
  obtain ⟨log, events, logged⟩ := along_logged (Flow.along_trace (overHttp net client) x wire)
  refine ⟨log, events, ?_⟩
  intro before request arrival after split
  obtain ⟨front, scope, call, answer, back, passed, steps, ⟨plan, planned, sent⟩, behind, short⟩ :=
    logged.exchange split
  have member : .call scope call answer ∈ x.trace (overHttp net client) wire := by simp [steps]
  exact ⟨plan.resource, ⟨scope, call, answer, plan, member, planned, rfl, sent⟩,
    h log logged front scope call answer back passed before plan request steps behind short planned
      sent⟩

/-- A flow asks about no empty ids but those that its steps do. -/
theorem asks_of_named {clusterId : String}
    (named : ∀ step ∈ x.trace (overHttp net client) wire, "" ∈ step.ids → clusterId = "") :
    Asks net client x wire fun _ _ resource => "" ∈ resource.ids → clusterId = "" := by
  refine asks_of ?_
  intro log _ front scope call answer back passed before plan request steps _ _ planned _ empty
  have member : .call scope call answer ∈ x.trace (overHttp net client) wire := by simp [steps]
  rw [Call.ids_of_plan planned] at empty
  exact named _ member empty

end

/-- Requests about an empty id are sent only where the id has been given so. A registration
sends one only to update a pending record that has been shown to it without an id, and then it
does not succeed; an unregistration, and the question whether a cluster is managed, only when
the id that they are given is empty. -/
theorem empty_ids_are_asked_about_only_as_given [Url.Idna] {σ : Type} (net : Network σ)
    (client : Client) (cluster : LocalCluster) (s : Settings) (wire : Wire σ) :
    Asks net client (register cluster s).run wire (fun before request resource =>
      "" ∈ resource.ids →
        (∃ cloudId, cloudId ≠ "" ∧ request.method = .put ∧ resource = .cloudCluster cloudId "") ∧
        UnnamedShown client cluster s .promotable before ∧
        ∀ id, ((register cluster s).run.run (overHttp net client) wire).1 ≠ .ok id) ∧
    (∀ poll clusterId, Asks net client (unregister cluster s poll clusterId).run wire
      fun _ _ resource => "" ∈ resource.ids → clusterId = "") ∧
    ∀ clusterId, Asks net client (isManaged cluster s clusterId).run wire
      fun _ _ resource => "" ∈ resource.ids → clusterId = "" := by
  refine ⟨asks_of ?_, fun poll clusterId => asks_of_named ?_, fun clusterId => asks_of_named ?_⟩
  · intro log logged front scope call answer back passed before plan request steps behind short
      planned sent empty
    have takes := Flow.takes_trace (overHttp net client) (register cluster s).run wire
    have path := register_takes takes
    have empty : "" ∈ call.ids := Call.ids_of_plan planned ▸ empty
    have failed : ∀ id, ((register cluster s).run.run (overHttp net client) wire).1 ≠ .ok id := by
      intro id succeeded
      rw [succeeded] at path
      have named := path.named_of_ok logged (.call scope call answer) (by simp [steps])
      exact named empty
    have updates := path.guarded_named front _ back steps empty
    cases call with
    | updateCluster cloudId current =>
        obtain ⟨acting, home, unnamed, identity, r, part, self, fit, named, within, read⟩ := updates
        simp only [Call.plan, unnamed] at planned
        cases planned
        have method := (Client.addresses_of_request? sent).1
        have shown := (read.shown within acting behind).mono short.subset
        exact ⟨⟨cloudId, home, method, rfl⟩, ⟨identity, r, self, fit, named, shown⟩, failed⟩
    | _ => exact updates.elim
  · exact (unregister_takes (Flow.takes_trace _ _ wire)).named
  · exact isManaged_named _ _ (Flow.takes_trace _ _ wire)

/-- The variable that holds the id of the cluster may be set to nothing. The cluster is then
asked about under the empty id, and deleted under it; and the update of a pending record without
an id is sent too. -/
theorem empty_ids_are_asked_about :
    letI := Url.Idna.asciiOnly
    let json (s : String) : Bytes := Utf8.encode s.toList
    let clouds : Cue :=
      .answer .ok (json r#"{"items":[{"id":"c","name":"private","cloudType":"private"}]}"#) .zero
    let clusters : Cue := .answer .ok (json (r#"{"items":[{"state":"pending","# ++
      r#""apiServiceID":"identity","connectorInstall":"pending"}]}"#)) .zero
    let cluster : LocalCluster := ⟨fun _ => .ok "token", .ok {}, .ok "identity"⟩
    let settings : Settings := { account := "a" }
    let urls {α : Type} (x : Procedure α) (script : List Cue) : List String :=
      (requests (x.run.run (overHttp ⟨Server.scripted, .recording⟩ (Client.ofHost "http://h"))
        { server := script }).2.events).map fun request => request.method.text ++ " " ++
          request.url.text
    let below (path : String) : String := "http://h/accounts/a/topology/v1/" ++ path
    CommandLine.parse (some "") ["status"] = .run (.status (some "")) ∧
    urls (isManaged cluster settings "") [] = ["GET " ++ below "managedClusters/"] ∧
    urls (unregister cluster settings .standard "")
        [clouds, .answer .noContent [] .zero, .answer .noContent [] .zero] =
      ["GET " ++ below "clouds", "DELETE " ++ below "managedClusters/",
        "DELETE " ++ below "clouds/c/clusters/"] ∧
    urls (register cluster settings) [clouds, clusters, .answer .ok [] .zero] =
      ["GET " ++ below "clouds", "GET " ++ below "clusters",
        "PUT " ++ below "clouds/c/clusters/"] := by
  decide +kernel

end Registration

end Enrollment
