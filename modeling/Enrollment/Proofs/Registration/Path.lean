import Mathlib.Data.List.Nodup
import Enrollment.Proofs.Flow.Steps
import Enrollment.Registration.Basic

/-!
# The ways through a registration

A registration makes few calls, in an order that is fixed but for the ways to end early. The
paths below list them all, phase by phase: what is called, what comes back, and what the
phase yields then. `register_takes` says that a registration takes no other steps. Whatever
is said of all registrations is therefore a case analysis of paths, whether they are followed
over a network or in memory.
-/

namespace Enrollment.Registration

open Inventory

/-! ## The cloud -/

/-- The ways to resolve the cloud. -/
inductive CloudPath (scope : Scope) (configured : Option String) :
    List Step → Except Failure String → Prop
  | missing {id : String} {e : Failure} (given : configuredId? configured = some id) :
      CloudPath scope configured [.call scope (.getCloud id) (.error e)]
        (.error (Procedure.reportedAs (.cloud id) e))
  | configured {id : String} {cloud : CloudRecord} (given : configuredId? configured = some id) :
      CloudPath scope configured [.call scope (.getCloud id) (.ok cloud)] (.ok id)
  | unlisted {e : Failure} (free : configuredId? configured = none) :
      CloudPath scope configured [.call scope .listClouds (.error e)] (.error e)
  | found {clouds : List CloudRecord} {cloud : CloudRecord}
      (free : configuredId? configured = none) (present : privateCloud? clouds = some cloud) :
      CloudPath scope configured [.call scope .listClouds (.ok clouds)] (.ok (cloud.id.getD ""))
  | uncreated {clouds : List CloudRecord} {e : Failure}
      (free : configuredId? configured = none) (absent : privateCloud? clouds = none) :
      CloudPath scope configured [.call scope .listClouds (.ok clouds),
        .call scope (.createCloud .privateCloud) (.error e)] (.error e)
  | unnamed {clouds : List CloudRecord} {cloud : CloudRecord}
      (free : configuredId? configured = none) (absent : privateCloud? clouds = none)
      (unnamed : configuredId? cloud.id = none) :
      CloudPath scope configured [.call scope .listClouds (.ok clouds),
        .call scope (.createCloud .privateCloud) (.ok cloud)]
        (.error (.refused .createdCloudWithoutId))
  | created {clouds : List CloudRecord} {cloud : CloudRecord} {id : String}
      (free : configuredId? configured = none) (absent : privateCloud? clouds = none)
      (named : configuredId? cloud.id = some id) :
      CloudPath scope configured [.call scope .listClouds (.ok clouds),
        .call scope (.createCloud .privateCloud) (.ok cloud)] (.ok id)

theorem resolveCloud_takes {scope : Scope} {configured : Option String} {steps : List Step}
    {out : Except Failure String} (h : (resolveCloud scope configured).run.Takes steps out) :
    CloudPath scope configured steps out := by
  unfold resolveCloud at h
  split at h
  · next id given =>
    rcases Procedure.takes_callOr_bind h with ⟨e, rfl, rfl⟩ | ⟨cloud, rest, rfl, tail⟩
    · exact .missing given
    · obtain ⟨rfl, rfl⟩ := Procedure.takes_pure tail
      exact .configured given
  · next free =>
    simp only [resolvePrivateCloud, findPrivateCloud, bind_assoc, pure_bind] at h
    rcases Procedure.takes_call_bind h with ⟨e, rfl, rfl⟩ | ⟨clouds, rest, rfl, tail⟩
    · exact .unlisted free
    split at tail
    · next cloud present =>
      obtain ⟨rfl, rfl⟩ := Procedure.takes_pure tail
      exact .found free present
    · next absent =>
      rcases Procedure.takes_call_bind tail with ⟨e, rfl, rfl⟩ | ⟨cloud, rest, rfl, last⟩
      · exact .uncreated free absent
      split at last
      · next id named =>
        obtain ⟨rfl, rfl⟩ := Procedure.takes_pure last
        exact .created free absent named
      · next unnamed =>
        obtain ⟨rfl, rfl⟩ := Procedure.takes_throw last
        exact .unnamed free absent unnamed

/-! ## The cluster -/

/-- The ways to resolve a record by the configured id. -/
inductive ConfiguredPath (scope : Scope) (cloudId id identity : String) :
    List Step → Except Failure Resolution → Prop
  | missing {e : Failure} :
      ConfiguredPath scope cloudId id identity [.call scope (.getCluster cloudId id) (.error e)]
        (.error (Procedure.reportedAs (.cluster id cloudId) e))
  | unfit {r : ClusterRecord} {why : Incompatibility}
      (standing : r.standing identity = .incompatible why) :
      ConfiguredPath scope cloudId id identity [.call scope (.getCluster cloudId id) (.ok r)]
        (.error (.incompatible r.idText why))
  | registered {r : ClusterRecord} (standing : r.standing identity = .registered) :
      ConfiguredPath scope cloudId id identity [.call scope (.getCluster cloudId id) (.ok r)]
        (.ok (.registered r))
  | unlisted {r : ClusterRecord} {e : Failure} (standing : r.standing identity = .promotable) :
      ConfiguredPath scope cloudId id identity [.call scope (.getCluster cloudId id) (.ok r),
        .call scope .listClusters (.error e)] (.error e)
  | rivalled {r : ClusterRecord} {clusters : List ClusterRecord} {other : ClusterRecord}
      (standing : r.standing identity = .promotable)
      (rivalled : rival? identity id clusters = some other) :
      ConfiguredPath scope cloudId id identity [.call scope (.getCluster cloudId id) (.ok r),
        .call scope .listClusters (.ok clusters)]
        (.error (.identityConflict identity other.idText id))
  | adopted {r : ClusterRecord} {clusters : List ClusterRecord}
      (standing : r.standing identity = .promotable)
      (unrivalled : rival? identity id clusters = none) :
      ConfiguredPath scope cloudId id identity [.call scope (.getCluster cloudId id) (.ok r),
        .call scope .listClusters (.ok clusters)] (.ok (.adopted r))

/-- The ways to resolve a record by the identity. -/
inductive IdentityPath (scope : Scope) (cloudId identity name : String) :
    List Step → Except Failure Resolution → Prop
  | unlisted {e : Failure} :
      IdentityPath scope cloudId identity name [.call scope .listClusters (.error e)] (.error e)
  | unfit {clusters : List ClusterRecord} {r : ClusterRecord} {why : Incompatibility}
      (present : tracked? identity clusters = some r)
      (standing : r.standing identity = .incompatible why) :
      IdentityPath scope cloudId identity name [.call scope .listClusters (.ok clusters)]
        (.error (.incompatible r.idText why))
  | registered {clusters : List ClusterRecord} {r : ClusterRecord}
      (present : tracked? identity clusters = some r)
      (standing : r.standing identity = .registered) :
      IdentityPath scope cloudId identity name [.call scope .listClusters (.ok clusters)]
        (.ok (.registered r))
  | adopted {clusters : List ClusterRecord} {r : ClusterRecord}
      (present : tracked? identity clusters = some r)
      (standing : r.standing identity = .promotable) :
      IdentityPath scope cloudId identity name [.call scope .listClusters (.ok clusters)]
        (.ok (.adopted r))
  | uncreated {clusters : List ClusterRecord} {e : Failure}
      (absent : tracked? identity clusters = none) :
      IdentityPath scope cloudId identity name [.call scope .listClusters (.ok clusters),
        .call scope (.createCluster cloudId (pendingRecord cloudId identity name)) (.error e)]
        (.error e)
  | created {clusters : List ClusterRecord} {r : ClusterRecord}
      (absent : tracked? identity clusters = none) :
      IdentityPath scope cloudId identity name [.call scope .listClusters (.ok clusters),
        .call scope (.createCluster cloudId (pendingRecord cloudId identity name)) (.ok r)]
        (.ok (.created r))

/-- The ways to resolve the record of a cluster. -/
inductive ClusterPath (scope : Scope) (cloudId : String) (configured : Option String)
    (identity name : String) : List Step → Except Failure Resolution → Prop
  | anonymous (empty : identity = "") :
      ClusterPath scope cloudId configured identity name [] (.error (.refused .identityMissing))
  | configured {id : String} {steps : List Step} {out : Except Failure Resolution}
      (self : identity ≠ "") (given : configuredId? configured = some id)
      (path : ConfiguredPath scope cloudId id identity steps out) :
      ClusterPath scope cloudId configured identity name steps out
  | byIdentity {steps : List Step} {out : Except Failure Resolution}
      (self : identity ≠ "") (free : configuredId? configured = none)
      (path : IdentityPath scope cloudId identity name steps out) :
      ClusterPath scope cloudId configured identity name steps out

/-- A record is judged by its standing alone. -/
theorem classify_cases (identity : String) (r : ClusterRecord) :
    (r.standing identity = .registered ∧ classify identity r = .ok (.registered r)) ∨
    (r.standing identity = .promotable ∧ classify identity r = .ok (.adopted r)) ∨
    ∃ why, r.standing identity = .incompatible why ∧
      classify identity r = .error (.incompatible r.idText why) := by
  unfold classify
  cases r.standing identity with
  | registered => exact .inl ⟨rfl, rfl⟩
  | promotable => exact .inr (.inl ⟨rfl, rfl⟩)
  | incompatible why => exact .inr (.inr ⟨why, rfl, rfl⟩)

theorem resolveByIdentity_takes {scope : Scope} {cloudId identity name : String}
    {steps : List Step} {out : Except Failure Resolution}
    (h : (resolveByIdentity scope cloudId identity name).run.Takes steps out) :
    IdentityPath scope cloudId identity name steps out := by
  simp only [resolveByIdentity, findTracked, bind_assoc, pure_bind] at h
  rcases Procedure.takes_call_bind h with ⟨e, rfl, rfl⟩ | ⟨clusters, rest, rfl, tail⟩
  · exact .unlisted
  split at tail
  · next r present =>
    obtain ⟨rfl, rfl⟩ := Procedure.takes_ofExcept tail
    rcases classify_cases identity r with
      ⟨standing, judged⟩ | ⟨standing, judged⟩ | ⟨why, standing, judged⟩ <;> rw [judged]
    · exact .registered present standing
    · exact .adopted present standing
    · exact .unfit present standing
  · next absent =>
    rcases Procedure.takes_call_bind tail with ⟨e, rfl, rfl⟩ | ⟨r, rest, rfl, last⟩
    · exact .uncreated absent
    · obtain ⟨rfl, rfl⟩ := Procedure.takes_pure last
      exact .created absent

theorem resolveConfigured_takes {scope : Scope} {cloudId id identity : String}
    {steps : List Step} {out : Except Failure Resolution}
    (h : (resolveConfigured scope cloudId id identity).run.Takes steps out) :
    ConfiguredPath scope cloudId id identity steps out := by
  simp only [resolveConfigured, findRival, bind_assoc, pure_bind] at h
  rcases Procedure.takes_callOr_bind h with ⟨e, rfl, rfl⟩ | ⟨r, rest, rfl, tail⟩
  · exact .missing
  rcases classify_cases identity r with
    ⟨standing, judged⟩ | ⟨standing, judged⟩ | ⟨why, standing, judged⟩ <;> rw [judged] at tail
  · obtain ⟨rfl, rfl⟩ := Procedure.takes_pure tail
    exact .registered standing
  · rcases Procedure.takes_call_bind tail with ⟨e, rfl, rfl⟩ | ⟨clusters, rest, rfl, last⟩
    · exact .unlisted standing
    split at last
    · next other rivalled =>
      obtain ⟨rfl, rfl⟩ := Procedure.takes_throw last
      exact .rivalled standing rivalled
    · next unrivalled =>
      obtain ⟨rfl, rfl⟩ := Procedure.takes_pure last
      exact .adopted standing unrivalled
  · obtain ⟨rfl, rfl⟩ := Procedure.takes_throw tail
    exact .unfit standing

theorem resolveCluster_takes {scope : Scope} {cloudId : String} {configured : Option String}
    {identity name : String} {steps : List Step} {out : Except Failure Resolution}
    (h : (resolveCluster scope cloudId configured identity name).run.Takes steps out) :
    ClusterPath scope cloudId configured identity name steps out := by
  unfold resolveCluster at h
  split at h
  · next empty =>
    obtain ⟨rfl, rfl⟩ := Procedure.takes_throw h
    exact .anonymous (String.isEmpty_iff.mp empty)
  · next self =>
    have self : identity ≠ "" := fun empty => self (String.isEmpty_iff.mpr empty)
    split at h
    · next id given => exact .configured self given (resolveConfigured_takes h)
    · next free => exact .byIdentity self free (resolveByIdentity_takes h)

/-! ## The promotion -/

/-- The call that brings a record up to date before it is promoted. -/
def refreshCall (s : Settings) (cloudId identity : String) (version : ClusterVersion)
    (record : ClusterRecord) : Call :=
  .updateCluster (cloudOf record cloudId) (refreshed record (s.nameFor identity) version)

/-- The call that promotes a record. -/
def promotionCall (s : Settings) (cloudId identity : String) (version : ClusterVersion)
    (record : ClusterRecord) : Call :=
  .promote (promotionOf s (cloudOf record cloudId) identity
    (refreshed record (s.nameFor identity) version))

/-- The ways to promote a record that is not registered. -/
inductive PromotionPath (scope : Scope) (s : Settings) (cloudId identity : String)
    (version : ClusterVersion) : Resolution → List Step → Except Failure String → Prop
  | unrefreshed {r : ClusterRecord} {e : Failure} :
      PromotionPath scope s cloudId identity version (.adopted r)
        [.call scope (refreshCall s cloudId identity version r) (.error e)] (.error e)
  | refreshed {r : ClusterRecord} {answer : Except Failure Unit} {out : Except Failure String}
      (result : out = answer.map fun _ => r.idText) :
      PromotionPath scope s cloudId identity version (.adopted r)
        [.call scope (refreshCall s cloudId identity version r) (.ok ()),
          .call scope (promotionCall s cloudId identity version r) answer] out
  | fresh {r : ClusterRecord} {answer : Except Failure Unit} {out : Except Failure String}
      (result : out = answer.map fun _ => r.idText) :
      PromotionPath scope s cloudId identity version (.created r)
        [.call scope (promotionCall s cloudId identity version r) answer] out

/-- The call that promotes a record yields the id of the record. -/
theorem promoteCall_takes {scope : Scope} {c : Call} {id : String} {steps : List Step}
    {out : Except Failure String}
    (h : (do let _ ← Procedure.call scope c; return id : Procedure String).run.Takes steps out) :
    ∃ answer, steps = [.call scope c answer] ∧ out = answer.map fun _ => id := by
  rcases Procedure.takes_call_bind h with ⟨e, rfl, rfl⟩ | ⟨a, rest, rfl, tail⟩
  · exact ⟨.error e, rfl, rfl⟩
  · obtain ⟨rfl, rfl⟩ := Procedure.takes_pure tail
    exact ⟨.ok a, rfl, rfl⟩

theorem promote_takes {scope : Scope} {s : Settings} {cloudId identity : String}
    {resolution : Resolution} {version : ClusterVersion} {steps : List Step}
    {out : Except Failure String} (unregistered : resolution.isRegistered = false)
    (h : (promote scope s cloudId identity resolution version).run.Takes steps out) :
    PromotionPath scope s cloudId identity version resolution steps out := by
  cases resolution with
  | registered r => exact absurd unregistered (by simp [Resolution.isRegistered])
  | created r =>
      obtain ⟨answer, rfl, result⟩ := promoteCall_takes h
      exact .fresh result
  | adopted r =>
      rcases Procedure.takes_call_bind h with ⟨e, rfl, rfl⟩ | ⟨a, rest, rfl, tail⟩
      · exact .unrefreshed
      · obtain ⟨answer, rfl, result⟩ := promoteCall_takes tail
        exact .refreshed result

/-! ## The whole registration -/

/-- The account to act on and its token, which are known before anything is called. -/
def knownScope (cluster : LocalCluster) (s : Settings) : Except Failure Scope :=
  if s.account.isEmpty then .error (.refused .accountMissing)
  else ((cluster.apiToken s.tokenRef).mapError (.lookup (.token s.tokenRef))).map (⟨s.account, ·⟩)

theorem scopeOf_eq (cluster : LocalCluster) (s : Settings) :
    scopeOf cluster s = Procedure.ofExcept (knownScope cluster s) := by
  unfold scopeOf knownScope
  split
  · rfl
  · cases cluster.apiToken s.tokenRef <;> rfl

theorem knownScope_of_token {cluster : LocalCluster} {s : Settings} {token : String}
    (account : s.account ≠ "") (secret : cluster.apiToken s.tokenRef = .ok token) :
    knownScope cluster s = .ok ⟨s.account, token⟩ := by
  simp [knownScope, account, secret, Except.mapError, Except.map]

/-- A registration acts for the configured account, with the token that is read for it. -/
theorem knownScope_ok {cluster : LocalCluster} {s : Settings} {scope : Scope}
    (h : knownScope cluster s = .ok scope) :
    scope.account = s.account ∧ cluster.apiToken s.tokenRef = .ok scope.token := by
  unfold knownScope at h
  split at h
  · cases h
  · cases token : cluster.apiToken s.tokenRef with
    | error e =>
        rw [token] at h
        cases h
    | ok a =>
        rw [token] at h
        cases h
        exact ⟨rfl, rfl⟩

theorem account_of_knownScope {cluster : LocalCluster} {s : Settings} {scope : Scope}
    (h : knownScope cluster s = .ok scope) : scope.account = s.account :=
  (knownScope_ok h).1

/-- The ways through a registration. -/
inductive RegistrationPath (cluster : LocalCluster) (s : Settings) :
    List Step → Except Failure String → Prop
  | unacting {e : Failure} (unknown : knownScope cluster s = .error e) :
      RegistrationPath cluster s [] (.error e)
  | unidentified {scope : Scope} {fault : LookupFault}
      (acting : knownScope cluster s = .ok scope) (unknown : cluster.identity = .error fault) :
      RegistrationPath cluster s [] (.error (.lookup .identity fault))
  | homeless {scope : Scope} {identity : String} {steps : List Step} {e : Failure}
      (acting : knownScope cluster s = .ok scope) (self : cluster.identity = .ok identity)
      (cloud : CloudPath scope s.cloudId steps (.error e)) :
      RegistrationPath cluster s steps (.error e)
  | unresolved {scope : Scope} {identity cloudId : String} {first second : List Step}
      {e : Failure}
      (acting : knownScope cluster s = .ok scope) (self : cluster.identity = .ok identity)
      (cloud : CloudPath scope s.cloudId first (.ok cloudId))
      (record : ClusterPath scope cloudId s.clusterId identity (s.nameFor identity) second
        (.error e)) :
      RegistrationPath cluster s (first ++ second) (.error e)
  | registered {scope : Scope} {identity cloudId : String} {first second : List Step}
      {r : ClusterRecord}
      (acting : knownScope cluster s = .ok scope) (self : cluster.identity = .ok identity)
      (cloud : CloudPath scope s.cloudId first (.ok cloudId))
      (record : ClusterPath scope cloudId s.clusterId identity (s.nameFor identity) second
        (.ok (.registered r))) :
      RegistrationPath cluster s (first ++ second) (.ok r.idText)
  | unversioned {scope : Scope} {identity cloudId : String} {first second : List Step}
      {resolution : Resolution} {fault : LookupFault}
      (acting : knownScope cluster s = .ok scope) (self : cluster.identity = .ok identity)
      (cloud : CloudPath scope s.cloudId first (.ok cloudId))
      (record : ClusterPath scope cloudId s.clusterId identity (s.nameFor identity) second
        (.ok resolution))
      (unregistered : resolution.isRegistered = false)
      (unknown : cluster.version = .error fault) :
      RegistrationPath cluster s (first ++ second) (.error (.lookup .version fault))
  | promoted {scope : Scope} {identity cloudId : String} {first second third : List Step}
      {resolution : Resolution} {version : ClusterVersion} {out : Except Failure String}
      (acting : knownScope cluster s = .ok scope) (self : cluster.identity = .ok identity)
      (cloud : CloudPath scope s.cloudId first (.ok cloudId))
      (record : ClusterPath scope cloudId s.clusterId identity (s.nameFor identity) second
        (.ok resolution))
      (unregistered : resolution.isRegistered = false)
      (known : cluster.version = .ok version)
      (promotion : PromotionPath scope s cloudId identity version resolution third out) :
      RegistrationPath cluster s (first ++ (second ++ third)) out

/-- A registration takes one of the ways listed, and no other. -/
theorem register_takes {cluster : LocalCluster} {s : Settings} {steps : List Step}
    {out : Except Failure String} (h : (register cluster s).run.Takes steps out) :
    RegistrationPath cluster s steps out := by
  unfold register at h
  rw [scopeOf_eq] at h
  rcases Procedure.takes_ofExcept_bind h with ⟨e, unknown, rfl, rfl⟩ | ⟨scope, acting, h⟩
  · exact .unacting unknown
  rcases Procedure.takes_lookup_bind h with ⟨fault, unknown, rfl, rfl⟩ | ⟨identity, self, h⟩
  · exact .unidentified acting unknown
  rcases Procedure.takes_bind h with ⟨e, cloud, rfl⟩ | ⟨first, cloudId, rest, rfl, cloud, h⟩
  · exact .homeless acting self (resolveCloud_takes cloud)
  have cloud := resolveCloud_takes cloud
  rcases Procedure.takes_bind h with ⟨e, record, rfl⟩ | ⟨second, resolution, rest, rfl, record, h⟩
  · exact .unresolved acting self cloud (resolveCluster_takes record)
  have record := resolveCluster_takes record
  split at h
  · next registered =>
    cases resolution with
    | registered r =>
        obtain ⟨rfl, rfl⟩ := Procedure.takes_pure h
        rw [List.append_nil]
        exact .registered acting self cloud record
    | adopted r => exact absurd registered (by simp [Resolution.isRegistered])
    | created r => exact absurd registered (by simp [Resolution.isRegistered])
  · next unregistered =>
    have unregistered : resolution.isRegistered = false := by simpa using unregistered
    rcases Procedure.takes_lookup_bind h with ⟨fault, unknown, rfl, rfl⟩ | ⟨version, known, h⟩
    · rw [List.append_nil]
      exact .unversioned acting self cloud record unregistered unknown
    · exact .promoted acting self cloud record unregistered known (promote_takes unregistered h)

/-- What guards the steps of every phase guards those of the registration. The guard of a
promotion may refer to the steps by which the record has been resolved. -/
theorem RegistrationPath.guarded {P : List Step → Step → Prop} {cluster : LocalCluster}
    {s : Settings} {steps : List Step} {out : Except Failure String}
    (path : RegistrationPath cluster s steps out)
    (longer : ∀ front before step, P before step → P (front ++ before) step)
    (cloud : ∀ {scope first result}, knownScope cluster s = .ok scope →
      CloudPath scope s.cloudId first result → Guarded P first)
    (record : ∀ {scope identity cloudId second result}, knownScope cluster s = .ok scope →
      cluster.identity = .ok identity →
      ClusterPath scope cloudId s.clusterId identity (s.nameFor identity) second result →
      Guarded P second)
    (promotion : ∀ {scope identity cloudId second resolution version third result},
      knownScope cluster s = .ok scope → cluster.identity = .ok identity →
      ClusterPath scope cloudId s.clusterId identity (s.nameFor identity) second (.ok resolution) →
      PromotionPath scope s cloudId identity version resolution third result →
      Guarded (fun before => P (second ++ before)) third) :
    Guarded P steps := by
  cases path with
  | unacting | unidentified => exact Guarded.nil
  | homeless acting _ home => exact cloud acting home
  | unresolved acting self home found | registered acting self home found
  | unversioned acting self home found =>
      refine Guarded.append_iff.mpr ⟨cloud acting home, ?_⟩
      exact (record acting self found).mono fun before step => longer _ before step
  | promoted acting self home found _ _ third =>
      refine Guarded.append_iff.mpr ⟨cloud acting home, Guarded.append_iff.mpr ⟨?_, ?_⟩⟩
      · exact (record acting self found).mono fun before step => longer _ before step
      · exact (promotion acting self found third).mono fun before step => longer _ _ step

/-! ## What is called -/

/-- Resolving the cloud leaves the records of clusters alone. -/
theorem CloudPath.spares {scope : Scope} {configured : Option String} {steps : List Step}
    {out : Except Failure String} (path : CloudPath scope configured steps out) :
    ∀ step ∈ steps, ¬ step.WritesCluster := by
  cases path <;> simp [Step.WritesCluster, Call.WritesCluster]

/-- The calls of a registration, in the order in which it makes them. -/
def callOrder : List (Option String) :=
  [some "GetCloud", some "ListClouds", some "CreateCloud"] ++
    ([some "GetCluster", some "ListClusters", some "CreateCluster"] ++
      [some "UpdateCluster", some "CreateManagedCluster"])

theorem CloudPath.operations {scope : Scope} {configured : Option String} {steps : List Step}
    {out : Except Failure String} (path : CloudPath scope configured steps out) :
    (steps.map Step.operation?).Sublist
      [some "GetCloud", some "ListClouds", some "CreateCloud"] := by
  cases path <;> simp [Step.operation?, Call.operation]

theorem ClusterPath.operations {scope : Scope} {cloudId identity name : String}
    {configured : Option String} {steps : List Step} {out : Except Failure Resolution}
    (path : ClusterPath scope cloudId configured identity name steps out) :
    (steps.map Step.operation?).Sublist
      [some "GetCluster", some "ListClusters", some "CreateCluster"] := by
  cases path with
  | anonymous => exact List.nil_sublist _
  | configured _ _ path => cases path <;> simp [Step.operation?, Call.operation]
  | byIdentity _ _ path => cases path <;> simp [Step.operation?, Call.operation]

theorem PromotionPath.operations {scope : Scope} {s : Settings} {cloudId identity : String}
    {version : ClusterVersion} {resolution : Resolution} {steps : List Step}
    {out : Except Failure String}
    (path : PromotionPath scope s cloudId identity version resolution steps out) :
    (steps.map Step.operation?).Sublist
      [some "UpdateCluster", some "CreateManagedCluster"] := by
  cases path <;> simp [Step.operation?, Call.operation, refreshCall, promotionCall]

/-- A registration makes its calls in order, and leaves some of them out. -/
theorem RegistrationPath.operations {cluster : LocalCluster} {s : Settings} {steps : List Step}
    {out : Except Failure String} (path : RegistrationPath cluster s steps out) :
    (steps.map Step.operation?).Sublist callOrder := by
  cases path with
  | unacting | unidentified => exact List.nil_sublist _
  | homeless _ _ cloud => exact cloud.operations.trans (List.sublist_append_left _ _)
  | unresolved _ _ cloud record | registered _ _ cloud record | unversioned _ _ cloud record =>
      rw [List.map_append]
      exact cloud.operations.append (record.operations.trans (List.sublist_append_left _ _))
  | promoted _ _ cloud record _ _ promotion =>
      rw [List.map_append, List.map_append]
      exact cloud.operations.append (record.operations.append promotion.operations)

/-- A registration makes no call of one kind twice. -/
theorem RegistrationPath.nodup_operations {cluster : LocalCluster} {s : Settings}
    {steps : List Step} {out : Except Failure String}
    (path : RegistrationPath cluster s steps out) : (steps.map Step.operation?).Nodup := by
  have distinct : callOrder.Nodup := by decide
  exact distinct.sublist path.operations

theorem RegistrationPath.count_operation_le_one {cluster : LocalCluster} {s : Settings}
    {steps : List Step} {out : Except Failure String}
    (path : RegistrationPath cluster s steps out) (operation : String) :
    (steps.map Step.operation?).count (some operation) ≤ 1 :=
  List.nodup_iff_count_le_one.mp path.nodup_operations _

end Enrollment.Registration
