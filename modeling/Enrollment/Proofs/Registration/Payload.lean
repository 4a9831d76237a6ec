import Enrollment.Proofs.Inventory.Traffic
import Enrollment.Proofs.Record.RoundTrip
import Enrollment.Proofs.Registration.Path

/-!
# What the writes of a registration carry

A registration writes a cluster up to three times: it creates the record, brings one up to date
that was there before, and promotes it. The three bodies are made from one another, and the
client stamps them on the way. Here they are written down from scratch, field by field, and it is
shown that the bytes that are sent decode to them. What they depend on has come back before: the
cloud that has been resolved, and the record that has been found or created.
-/

namespace Enrollment.Registration

open Inventory Http

/-! ## The three bodies -/

/-- A text, or another one in place of the empty text. -/
def filled (text other : String) : String := if text = "" then other else text

section

variable (s : Settings) (identity cloudId : String) (version : ClusterVersion) (r : ClusterRecord)

/-- The record that is created for a cluster: what is not listed is left out. -/
def creationBody : ClusterRecord where
  typeTag := "application/astra-cluster"
  version := "1.6"
  name := filled s.clusterName identity
  cloudId := cloudId
  identity := identity
  install := .known .pending
  capabilities := ["relayV1", "watcherV1"]

/-- What brings the record `r` up to date: the versions, and a name if `r` has none. -/
def updateBody : ClusterRecord where
  typeTag := "application/astra-cluster"
  version := "1.6"
  name := filled r.name (filled s.clusterName identity)
  distro := version.distro
  clusterVersion := version.semantic
  versionString := version.reported
  capabilities := ["relayV1", "watcherV1"]

/-- What has the record `r` managed: its id, what it has been brought up to date with, the
states that it will have, and how the cluster is reached. -/
def promotionBody : ClusterRecord where
  id := some r.idText
  typeTag := "application/astra-managedCluster"
  version := "1.2"
  name := filled r.name (filled s.clusterName identity)
  desiredState := .known .managed
  cloudId := filled r.cloudId cloudId
  identity := identity
  install := .known .installed
  distro := version.distro
  clusterVersion := version.semantic
  versionString := version.reported
  namespaceName := s.namespaceName
  apiServerUrl := s.apiServerUrl
  credentialId := s.credentialId
  capabilities := ["relayV1", "watcherV1"]

theorem ite_isEmpty (text other : String) :
    (if text.isEmpty then other else text) = filled text other := by
  simp only [filled, String.isEmpty_iff]

theorem stamped_pendingRecord :
    (pendingRecord cloudId identity (s.nameFor identity)).stamped =
      creationBody s identity cloudId := by
  rw [Settings.nameFor, ite_isEmpty]
  rfl

theorem stamped_refreshed :
    { (refreshed r (s.nameFor identity) version).stamped with id := none } =
      updateBody s identity version r := by
  rw [refreshed, Settings.nameFor, ite_isEmpty, ite_isEmpty]
  rfl

theorem promotion_refreshed :
    (promotionOf s (cloudOf r cloudId) identity
      (refreshed r (s.nameFor identity) version)).promotion =
      promotionBody s identity cloudId version r := by
  rw [refreshed, Settings.nameFor, cloudOf, ite_isEmpty, ite_isEmpty, ite_isEmpty]
  rfl

/-! The tags of the bodies are unset or known, so that they are read back as they are. -/

theorem isProper_creationBody : (creationBody s identity cloudId).IsProper := by
  constructor <;> exact fun _ same => nomatch same

theorem isProper_updateBody : (updateBody s identity version r).IsProper := by
  constructor <;> exact fun _ same => nomatch same

theorem isProper_promotionBody : (promotionBody s identity cloudId version r).IsProper := by
  constructor <;> exact fun _ same => nomatch same

end

/-- The body of the request decodes to this record. -/
def Carries (request : Request) (r : ClusterRecord) : Prop :=
  ∃ body, request.body = some body ∧ ClusterRecord.decode body = .ok r

theorem carries_encoded {request : Request} {r : ClusterRecord}
    (body : request.body = some (Utf8.encode r.encode.toList)) (proper : r.IsProper) :
    Carries request r := by
  have faithful := Json.Layout.faithful ClusterRecord.reads_write ClusterRecord.isProper_of_read
  exact ⟨_, body, faithful.restores r proper⟩

/-! ## What has come back before -/

/-- The resolved cloud, by the replies that have shown it: the configured one is there, or it is
the first private cloud of a listing that has an id, or it has been created. -/
inductive Resolved [Url.Idna] (client : Client) (s : Settings) (cloudId : String)
    (log : List Event) : Prop
  | configured {reply : Reply} (given : configuredId? s.cloudId = some cloudId)
      (answered : Answered client s.account .get (.cloud cloudId) reply log)
      (status : reply.status = .ok)
  | listed {clouds : List CloudRecord} {cloud : CloudRecord} (free : configuredId? s.cloudId = none)
      (listed : Listed client s.account .clouds Listing.clouds clouds log)
      (first : clouds.find? (fun c => c.isPrivate && c.hasId) = some cloud)
      (named : cloud.id = some cloudId)
  | created {reply : Reply} {cloud : CloudRecord} (free : configuredId? s.cloudId = none)
      (answered : Answered client s.account .post .clouds reply log)
      (status : reply.status = .created) (decoded : CloudRecord.decode reply.body = .ok cloud)
      (named : cloud.id = some cloudId)

/-- The record that has been found: the first of a listing that is tracked for the identity, or
the one that has been read by the configured id. -/
inductive Found [Url.Idna] (client : Client) (s : Settings) (identity cloudId : String)
    (r : ClusterRecord) (log : List Event) : Prop
  | listed {clusters : List ClusterRecord} (free : configuredId? s.clusterId = none)
      (listed : Listed client s.account .clusters Listing.clusters clusters log)
      (first : clusters.find? (·.isTrackedFor identity) = some r)
  | read {id : String} {reply : Reply} (given : configuredId? s.clusterId = some id)
      (answered : Answered client s.account .get (.cloudCluster cloudId id) reply log)
      (status : reply.status = .ok) (decoded : ClusterRecord.decode reply.body = .ok r)

/-- The record that has been created, as the reply shows it. -/
def Made [Url.Idna] (client : Client) (s : Settings) (cloudId : String) (r : ClusterRecord)
    (log : List Event) : Prop :=
  ∃ reply, Answered client s.account .post (.cloudClusters cloudId) reply log ∧
    reply.status = .created ∧ ClusterRecord.decode reply.body = .ok r

/-- A request that writes a cluster: where it goes to, and the record that it carries. -/
inductive Carried [Url.Idna] (client : Client) (cluster : LocalCluster) (s : Settings)
    (log : List Event) (request : Request) : Prop
  | creation {identity cloudId : String} (self : cluster.identity = .ok identity)
      (home : Resolved client s cloudId log)
      (posted : client.Addresses s.account .post (.cloudClusters cloudId) request)
      (body : Carries request (creationBody s identity cloudId))
  | update {identity cloudId : String} {version : ClusterVersion} {r : ClusterRecord}
      (self : cluster.identity = .ok identity) (known : cluster.version = .ok version)
      (home : Resolved client s cloudId log) (record : Found client s identity cloudId r log)
      (put : client.Addresses s.account .put
        (.cloudCluster (filled r.cloudId cloudId) r.idText) request)
      (body : Carries request (updateBody s identity version r))
  | promotion {identity cloudId : String} {version : ClusterVersion} {r : ClusterRecord}
      (self : cluster.identity = .ok identity) (known : cluster.version = .ok version)
      (home : Resolved client s cloudId log)
      (record : Found client s identity cloudId r log ∨ Made client s cloudId r log)
      (posted : client.Addresses s.account .post .managedClusters request)
      (body : Carries request (promotionBody s identity cloudId version r))

section

variable {client : Client} {cluster : LocalCluster} {s : Settings} {scope : Scope}
variable {identity cloudId name : String} {r : ClusterRecord} {log rest : List Event}
variable {steps part : List Step}
variable [Url.Idna]

theorem Resolved.mono (h : Resolved client s cloudId log) (within : log ⊆ rest) :
    Resolved client s cloudId rest := by
  cases h with
  | configured given answered status => exact .configured given (answered.mono within) status
  | listed free listed first named => exact .listed free (listed.mono within) first named
  | created free answered status decoded named =>
      exact .created free (answered.mono within) status decoded named

theorem Found.mono (h : Found client s identity cloudId r log) (within : log ⊆ rest) :
    Found client s identity cloudId r rest := by
  cases h with
  | listed free listed first => exact .listed free (listed.mono within) first
  | read given answered status decoded => exact .read given (answered.mono within) status decoded

theorem Made.mono (h : Made client s cloudId r log) (within : log ⊆ rest) :
    Made client s cloudId r rest := by
  obtain ⟨reply, answered, shown⟩ := h
  exact ⟨reply, answered.mono within, shown⟩

/-- The cloud that a way comes to has been shown on it. -/
theorem CloudPath.resolved (path : CloudPath scope s.cloudId part (.ok cloudId))
    (within : part ⊆ steps) (acting : scope.account = s.account)
    (logged : Logged client steps log) : Resolved client s cloudId log := by
  cases path with
  | configured given =>
      obtain ⟨plan, target, reply, planned, answered, accepted, -⟩ :=
        logged.answered_ok (within List.mem_cons_self)
      cases planned
      exact .configured given (acting ▸ answered) (status_of_exactly accepted)
  | @found clouds cloud free first =>
      have listed := logged.clouds_listed (within List.mem_cons_self)
      have shown := List.find?_some first
      refine .listed free (acting ▸ listed) first ?_
      cases named : cloud.id with
      | none => simp [CloudRecord.hasId, named] at shown
      | some id => rfl
  | created free _ named =>
      obtain ⟨reply, answered, status, decoded⟩ :=
        logged.cloud_created (within (List.mem_cons_of_mem _ List.mem_cons_self))
      have named := (Option.filter_eq_some_iff.mp named).1
      exact .created free (acting ▸ answered) status decoded named

/-- The record that is gone on with has been found. -/
theorem ClusterPath.shown
    (path : ClusterPath scope cloudId s.clusterId identity name part (.ok (.adopted r)))
    (within : part ⊆ steps) (acting : scope.account = s.account)
    (logged : Logged client steps log) : Found client s identity cloudId r log := by
  cases path with
  | configured _ given path =>
      cases path with
      | adopted =>
          obtain ⟨reply, answered, status, decoded⟩ :=
            logged.cluster_found (within List.mem_cons_self)
          exact .read given (acting ▸ answered) status decoded
  | byIdentity _ free path =>
      cases path with
      | adopted first =>
          have listed := logged.clusters_listed (within List.mem_cons_self)
          exact .listed free (acting ▸ listed) first

/-- The record that has been created is the one of the reply. -/
theorem ClusterPath.made
    (path : ClusterPath scope cloudId s.clusterId identity name part (.ok (.created r)))
    (within : part ⊆ steps) (acting : scope.account = s.account)
    (logged : Logged client steps log) : Made client s cloudId r log := by
  cases path with
  | configured _ _ path => cases path
  | byIdentity _ _ path =>
      cases path with
      | created =>
          obtain ⟨reply, answered, shown⟩ :=
            logged.cluster_created (within (List.mem_cons_of_mem _ List.mem_cons_self))
          exact ⟨reply, acting ▸ answered, shown⟩

end

/-! ## How the calls are assembled -/

/-- A step leaves the records of clusters alone, or it makes one of the three calls, assembled
from what the steps in front of it have resolved. -/
inductive Assembled (cluster : LocalCluster) (s : Settings) (before : List Step) : Step → Prop
  | spares {step : Step} (spares : ¬ step.WritesCluster) : Assembled cluster s before step
  | creation {scope : Scope} {identity cloudId : String} {first : List Step}
      {answer : Except Failure ClusterRecord} (acting : knownScope cluster s = .ok scope)
      (self : cluster.identity = .ok identity)
      (cloud : CloudPath scope s.cloudId first (.ok cloudId)) (within : first ⊆ before) :
      Assembled cluster s before (.call scope
        (.createCluster cloudId (pendingRecord cloudId identity (s.nameFor identity))) answer)
  | update {scope : Scope} {identity cloudId : String} {version : ClusterVersion}
      {r : ClusterRecord} {first second : List Step} {answer : Except Failure Unit}
      (acting : knownScope cluster s = .ok scope) (self : cluster.identity = .ok identity)
      (known : cluster.version = .ok version)
      (cloud : CloudPath scope s.cloudId first (.ok cloudId))
      (record : ClusterPath scope cloudId s.clusterId identity (s.nameFor identity) second
        (.ok (.adopted r)))
      (within : first ++ second ⊆ before) :
      Assembled cluster s before
        (.call scope (refreshCall s cloudId identity version r) answer)
  | promotion {scope : Scope} {identity cloudId : String} {version : ClusterVersion}
      {resolution : Resolution} {first second : List Step} {answer : Except Failure Unit}
      (acting : knownScope cluster s = .ok scope) (self : cluster.identity = .ok identity)
      (known : cluster.version = .ok version)
      (cloud : CloudPath scope s.cloudId first (.ok cloudId))
      (record : ClusterPath scope cloudId s.clusterId identity (s.nameFor identity) second
        (.ok resolution))
      (unregistered : resolution.isRegistered = false) (within : first ++ second ⊆ before) :
      Assembled cluster s before
        (.call scope (promotionCall s cloudId identity version resolution.record) answer)

section

variable {cluster : LocalCluster} {s : Settings} {scope : Scope} {identity cloudId : String}
variable {version : ClusterVersion} {steps first second : List Step}

theorem guarded_assembled (spares : ∀ step ∈ steps, ¬ step.WritesCluster) :
    Guarded (Assembled cluster s) steps := by
  rintro before step after rfl
  exact .spares (spares step (List.mem_append_right before List.mem_cons_self))

theorem ClusterPath.assembled {out : Except Failure Resolution}
    (acting : knownScope cluster s = .ok scope) (self : cluster.identity = .ok identity)
    (cloud : CloudPath scope s.cloudId first (.ok cloudId))
    (path : ClusterPath scope cloudId s.clusterId identity (s.nameFor identity) steps out) :
    Guarded (fun before => Assembled cluster s (first ++ before)) steps := by
  have gets {before : List Step} {id : String} {answer : Except Failure ClusterRecord} :
      Assembled cluster s before (.call scope (.getCluster cloudId id) answer) := .spares not_false
  have lists {before : List Step} {answer : Except Failure (List ClusterRecord)} :
      Assembled cluster s before (.call scope .listClusters answer) := .spares not_false
  have creates {before : List Step} {answer : Except Failure ClusterRecord} :
      Assembled cluster s (first ++ before) (.call scope
        (.createCluster cloudId (pendingRecord cloudId identity (s.nameFor identity))) answer) :=
    .creation acting self cloud (List.subset_append_left first before)
  cases path with
  | anonymous => exact Guarded.nil
  | configured _ _ path => cases path <;> simp [gets, lists]
  | byIdentity _ _ path => cases path <;> simp [lists, creates]

theorem PromotionPath.assembled {resolution : Resolution} {out : Except Failure String}
    (acting : knownScope cluster s = .ok scope) (self : cluster.identity = .ok identity)
    (known : cluster.version = .ok version)
    (cloud : CloudPath scope s.cloudId first (.ok cloudId))
    (record : ClusterPath scope cloudId s.clusterId identity (s.nameFor identity) second
      (.ok resolution))
    (path : PromotionPath scope s cloudId identity version resolution steps out) :
    Guarded (fun before => Assembled cluster s (first ++ (second ++ before))) steps := by
  have within (before : List Step) : first ++ second ⊆ first ++ (second ++ before) := by
    rw [← List.append_assoc]
    exact List.subset_append_left _ before
  cases path with
  | unrefreshed =>
      rw [Guarded.cons_iff]
      exact ⟨.update acting self known cloud record (within []), Guarded.nil⟩
  | refreshed =>
      rw [Guarded.cons_iff, Guarded.cons_iff]
      exact ⟨.update acting self known cloud record (within []),
        .promotion acting self known cloud record rfl (within _), Guarded.nil⟩
  | fresh =>
      rw [Guarded.cons_iff]
      exact ⟨.promotion acting self known cloud record rfl (within []), Guarded.nil⟩

/-- Every call of a registration that writes a cluster is assembled from what is known. -/
theorem RegistrationPath.assembled {out : Except Failure String}
    (path : RegistrationPath cluster s steps out) : Guarded (Assembled cluster s) steps := by
  cases path with
  | unacting | unidentified => exact Guarded.nil
  | homeless _ _ cloud => exact guarded_assembled cloud.spares
  | unresolved acting self cloud record | registered acting self cloud record
  | unversioned acting self cloud record =>
      exact Guarded.append_iff.mpr ⟨guarded_assembled cloud.spares,
        record.assembled acting self cloud⟩
  | promoted acting self cloud record _ known promotion =>
      exact Guarded.append_iff.mpr ⟨guarded_assembled cloud.spares, Guarded.append_iff.mpr
        ⟨record.assembled acting self cloud, promotion.assembled acting self known cloud record⟩⟩

end

variable [Url.Idna]

/-! ## What is sent -/

theorem Carried.mono {client : Client} {cluster : LocalCluster} {s : Settings}
    {log rest : List Event} {request : Request} (h : Carried client cluster s log request)
    (within : log ⊆ rest) : Carried client cluster s rest request := by
  cases h with
  | creation self home posted body => exact .creation self (home.mono within) posted body
  | update self known home record put body =>
      exact .update self known (home.mono within) (record.mono within) put body
  | promotion self known home record posted body =>
      have record := record.imp (·.mono within) (·.mono within)
      exact .promotion self known (home.mono within) record posted body

section

variable {client : Client} {scope : Scope} {call : Call} {request : Request}

/-- A request is for the resource of its plan and has its body. -/
theorem sends_of_plan {plan : Plan} (sends : client.Sends scope call request)
    (planned : call.plan = .ok plan) :
    client.Addresses scope.account plan.method plan.resource request ∧
      request.body = plan.body := by
  obtain ⟨other, planned', sent⟩ := sends
  cases planned.symm.trans planned'
  refine ⟨Client.addresses_of_request? sent, ?_⟩
  obtain ⟨url, -, -, rfl⟩ := Client.request?_eq sent
  rfl

theorem posted_of_promote {sent : ClusterRecord}
    (sends : client.Sends scope (.promote sent) request) :
    client.Addresses scope.account .post .managedClusters request := by
  obtain ⟨plan, planned, addressed, -⟩ := sends.addresses
  simp only [Call.plan] at planned
  split at planned
  · cases planned
  · cases planned
    exact addressed

/-- A read has no body. -/
theorem bodiless_of_get (sends : client.Sends scope call request) (get : request.method = .get) :
    request.body = none := by
  obtain ⟨plan, planned, sent⟩ := sends
  obtain ⟨url, -, -, rfl⟩ := Client.request?_eq sent
  have read : plan.method = .get := get
  show plan.body = none
  cases call with
  | createCloud | createCluster | updateCluster | promote =>
      simp only [Call.plan] at planned
      split at planned <;> cases planned
      cases read
  | _ =>
      cases planned
      rfl

end

section

variable {client : Client} {cluster : LocalCluster} {s : Settings} {scope : Scope} {call : Call}
variable {answer : Except Failure call.Answer} {request : Request} {front : List Step}
variable {log : List Event}

/-- What is sent for an assembled call carries one of the three bodies. -/
theorem Assembled.carried (h : Assembled cluster s front (.call scope call answer))
    (logged : Logged client front log) (sends : client.Sends scope call request) :
    ¬ call.WritesCluster ∨ Carried client cluster s log request := by
  generalize given : Step.call scope call answer = step at h
  cases h with
  | spares spares =>
      subst given
      exact .inl spares
  | @creation _ identity cloudId first _ acting self cloud within =>
      obtain ⟨rfl, rfl, -⟩ := Step.call.inj given
      have acting := account_of_knownScope acting
      obtain ⟨posted, body⟩ := sends_of_plan sends rfl
      have body := carries_encoded (body.trans (by rw [stamped_pendingRecord]; rfl))
        (isProper_creationBody s identity cloudId)
      exact .inr (.creation self (cloud.resolved within acting logged) (acting ▸ posted) body)
  | @update _ identity cloudId version r _ _ _ acting self known cloud record within =>
      obtain ⟨rfl, rfl, -⟩ := Step.call.inj given
      have acting := account_of_knownScope acting
      obtain ⟨first, second⟩ := List.append_subset.mp within
      obtain ⟨put, body⟩ := sends_of_plan sends rfl
      have body := carries_encoded (body.trans (by rw [stamped_refreshed]; rfl))
        (isProper_updateBody s identity version r)
      have home := cloud.resolved first acting logged
      have found := record.shown second acting logged
      rw [acting, cloudOf, ite_isEmpty] at put
      exact .inr (.update self known home found put body)
  | @promotion _ identity cloudId version resolution _ _ _ acting self known cloud record
      unregistered within =>
      obtain ⟨rfl, rfl, -⟩ := Step.call.inj given
      have acting := account_of_knownScope acting
      obtain ⟨first, second⟩ := List.append_subset.mp within
      have posted := posted_of_promote sends
      obtain ⟨-, body⟩ := sends.promote
      have body := carries_encoded (body.trans (by rw [promotion_refreshed]))
        (isProper_promotionBody s identity cloudId version resolution.record)
      have home := cloud.resolved first acting logged
      have record : Found client s identity cloudId resolution.record log ∨
          Made client s cloudId resolution.record log := by
        cases resolution with
        | registered => cases unregistered
        | adopted => exact .inl (record.shown second acting logged)
        | created => exact .inr (record.made second acting logged)
      exact .inr (.promotion self known home record (acting ▸ posted) body)

end

/-- Every write of a registration carries the right record. What a registration sends is a read
without a body, or it creates a cloud, or it writes the cluster: then it goes to the resource that
is written, and its body decodes to the record that creates the cluster, brings it up to date or
promotes it, filled in from the settings, from what the cluster knows of itself, and from the
cloud and the record that have come back before. -/
theorem register_carries_right_records {σ : Type} (net : Network σ) (client : Client)
    (cluster : LocalCluster) (s : Settings) (wire : Wire σ) :
    ∃ log, ((register cluster s).run.run (overHttp net client) wire).2.events =
        wire.events ++ log ∧
      EachSent log fun before request =>
        (request.method = .get ∧ request.body = none) ∨
        (∃ account, client.Addresses account .post .clouds request) ∨
        Carried client cluster s before request := by
  obtain ⟨steps, log, takes, events, logged⟩ :=
    exists_takes_logged net client (register cluster s).run wire
  refine ⟨log, events, ?_⟩
  intro before request arrival after split
  obtain ⟨front, scope, call, answer, back, passed, rfl, sends, behind, short⟩ :=
    logged.exchange split
  have assembled := (register_takes takes).assembled front _ back rfl
  rcases assembled.carried behind sends with spares | carried
  · rcases sends.of_spares spares with get | ⟨-, posted⟩
    · exact .inl ⟨get, bodiless_of_get sends get⟩
    · exact .inr (.inl ⟨scope.account, posted⟩)
  · exact .inr (.inr (carried.mono short.subset))

end Enrollment.Registration
