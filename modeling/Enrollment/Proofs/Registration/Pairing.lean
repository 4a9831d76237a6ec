import Enrollment.Proofs.Inventory.Pairing
import Enrollment.Proofs.Registration.Path

/-!
# Operations side by side

An operation is carried out twice, for clusters that know the same of themselves but perhaps hold
different tokens, and with answers that are the same but perhaps for the listing of clusters. The
two runs take the same steps, because a scope is only ever handed on to calls, and because all that
a registration makes of the listing is to look for the records that are tracked for its identity.
-/

namespace Enrollment.Registration

open Inventory

/-- An operation carried out over a network that makes these deliveries, from its start on. -/
def delivered [Url.Idna] {α : Type} (client : Client) (deliveries : Nat → Http.Delivery)
    (pacing : Pacing) (started : Instant) (operation : Procedure α) :
    Except Failure α × Http.Wire Nat :=
  operation.run.run (overHttp (.delivering deliveries pacing) client)
    { server := 0, now := started }

/-- Nothing but listings of clusters is answered differently. -/
def Likeness.Plain (K : Likeness) : Prop :=
  ∀ c, c ≠ .listClusters → ∀ a a', K.answers c a a' → a = a'

/-- The same records are tracked for this identity in both listings, in the same order. -/
def SameTracked (identity : String) (clusters clusters' : List ClusterRecord) : Prop :=
  clusters.filter (·.isTrackedFor identity) = clusters'.filter (·.isTrackedFor identity)

/-- Two clusters that know the same of themselves, but may act for different scopes. -/
structure ClustersAlike (K : Likeness) (s : Settings) (cluster cluster' : LocalCluster) : Prop where
  scope : Both K.scopes (knownScope cluster s) (knownScope cluster' s)
  version : cluster'.version = cluster.version
  identity : cluster'.identity = cluster.identity

section

variable {K : Likeness} {scope scope' : Scope} {identity : String}
variable {clusters clusters' : List ClusterRecord}

/-! ## Listings -/

theorem SameTracked.tracked? (same : SameTracked identity clusters clusters') :
    tracked? identity clusters = tracked? identity clusters' := by
  rw [Registration.tracked?, Registration.tracked?, ← List.head?_filter, ← List.head?_filter, same]

theorem rival?_eq_find? (identity id : String) (clusters : List ClusterRecord) :
    rival? identity id clusters =
      (clusters.filter (·.isTrackedFor identity)).find? (fun r => r.idText ≠ id) := by
  rw [rival?, ← List.head?_filter, ← List.head?_filter, List.filter_filter]

theorem SameTracked.rival? (same : SameTracked identity clusters clusters') (id : String) :
    rival? identity id clusters = rival? identity id clusters' := by
  rw [rival?_eq_find?, rival?_eq_find?, same]

/-! ## Calls -/

/-- A call that lists no clusters is answered alike. -/
theorem alike_plainCall (plain : K.Plain) (scopes : K.scopes scope scope') (c : Call)
    (other : c ≠ .listClusters) :
    Procedure.Alike K Eq (Procedure.call scope c) (Procedure.call scope' c) :=
  (Procedure.alike_call c scopes).mono (plain c other)

theorem alike_plainCallOr (plain : K.Plain) (scopes : K.scopes scope scope') (missing : Missing)
    (c : Call) (other : c ≠ .listClusters) :
    Procedure.Alike K Eq (Procedure.callOr missing scope c) (Procedure.callOr missing scope' c) :=
  (Procedure.alike_callOr missing c scopes).mono (plain c other)

theorem alike_scopeOf {s : Settings} {cluster cluster' : LocalCluster}
    (clusters : ClustersAlike K s cluster cluster') :
    Procedure.Alike K K.scopes (scopeOf cluster s) (scopeOf cluster' s) := by
  rw [scopeOf_eq, scopeOf_eq]
  exact Procedure.alike_ofExcept clusters.scope

/-! ## The cloud -/

theorem alike_findPrivateCloud (plain : K.Plain) (scopes : K.scopes scope scope') :
    Procedure.Alike K Eq (findPrivateCloud scope) (findPrivateCloud scope') := by
  apply (alike_plainCall plain scopes .listClouds (by decide)).bind_eq
  intro clouds
  exact Procedure.alike_pure rfl

theorem alike_resolveCloud (plain : K.Plain) (scopes : K.scopes scope scope')
    (configured : Option String) :
    Procedure.Alike K Eq (resolveCloud scope configured) (resolveCloud scope' configured) := by
  unfold resolveCloud
  cases configuredId? configured with
  | some id =>
      apply (alike_plainCallOr plain scopes (.cloud id) (.getCloud id) (by simp)).bind_eq
      intro cloud
      exact Procedure.alike_pure rfl
  | none =>
      apply (alike_findPrivateCloud plain scopes).bind_eq
      intro found
      cases found with
      | some cloud => exact Procedure.alike_pure rfl
      | none =>
          apply (alike_plainCall plain scopes (.createCloud .privateCloud) (by simp)).bind_eq
          intro created
          cases configuredId? created.id with
          | some id => exact Procedure.alike_pure rfl
          | none => exact Procedure.alike_throw _

/-! ## The cluster -/

/-- The listings that a registration may be given one for the other. -/
def Likeness.ListsFor (K : Likeness) (identity : String) : Prop :=
  ∀ clusters clusters', K.answers .listClusters clusters clusters' →
    SameTracked identity clusters clusters'

theorem alike_findTracked (lists : K.ListsFor identity) (scopes : K.scopes scope scope') :
    Procedure.Alike K Eq (findTracked scope identity) (findTracked scope' identity) := by
  apply (Procedure.alike_call .listClusters scopes).bind
  intro clusters clusters' related
  exact Procedure.alike_pure (lists clusters clusters' related).tracked?

theorem alike_findRival (lists : K.ListsFor identity) (scopes : K.scopes scope scope')
    (id : String) :
    Procedure.Alike K Eq (findRival scope identity id) (findRival scope' identity id) := by
  apply (Procedure.alike_call .listClusters scopes).bind
  intro clusters clusters' related
  exact Procedure.alike_pure ((lists clusters clusters' related).rival? id)

theorem alike_resolveByIdentity (plain : K.Plain) (lists : K.ListsFor identity)
    (scopes : K.scopes scope scope') (cloudId name : String) :
    Procedure.Alike K Eq (resolveByIdentity scope cloudId identity name)
      (resolveByIdentity scope' cloudId identity name) := by
  apply (alike_findTracked lists scopes).bind_eq
  intro found
  cases found with
  | some record => exact Procedure.alike_ofExcept (.refl (fun _ => rfl) _)
  | none =>
      apply (alike_plainCall plain scopes (.createCluster cloudId _) (by simp)).bind_eq
      intro created
      exact Procedure.alike_pure rfl

theorem alike_resolveConfigured (plain : K.Plain) (lists : K.ListsFor identity)
    (scopes : K.scopes scope scope') (cloudId id : String) :
    Procedure.Alike K Eq (resolveConfigured scope cloudId id identity)
      (resolveConfigured scope' cloudId id identity) := by
  apply (alike_plainCallOr plain scopes (.cluster id cloudId) (.getCluster cloudId id)
    (by simp)).bind_eq
  intro record
  apply (Procedure.alike_ofExcept (.refl (fun _ => rfl) (classify identity record))).bind_eq
  intro resolution
  cases resolution.isRegistered with
  | true => exact Procedure.alike_pure rfl
  | false =>
      apply (alike_findRival lists scopes id).bind_eq
      intro rival
      cases rival with
      | some other => exact Procedure.alike_throw _
      | none => exact Procedure.alike_pure rfl

theorem alike_resolveCluster (plain : K.Plain) (lists : K.ListsFor identity)
    (scopes : K.scopes scope scope') (cloudId : String) (configured : Option String)
    (name : String) :
    Procedure.Alike K Eq (resolveCluster scope cloudId configured identity name)
      (resolveCluster scope' cloudId configured identity name) := by
  unfold resolveCluster
  cases identity.isEmpty with
  | true => exact Procedure.alike_throw _
  | false =>
      cases configuredId? configured with
      | some id => exact alike_resolveConfigured plain lists scopes cloudId id
      | none => exact alike_resolveByIdentity plain lists scopes cloudId name

/-! ## The operations -/

theorem alike_promote (plain : K.Plain) (scopes : K.scopes scope scope') (s : Settings)
    (cloudId identity : String) (resolution : Resolution) (version : ClusterVersion) :
    Procedure.Alike K Eq (promote scope s cloudId identity resolution version)
      (promote scope' s cloudId identity resolution version) := by
  have promotes (cluster : ClusterRecord) (id : String) :
      Procedure.Alike K Eq
        (do let _ ← Procedure.call scope (.promote cluster); return id)
        (do let _ ← Procedure.call scope' (.promote cluster); return id) := by
    apply (alike_plainCall plain scopes (.promote cluster) (by simp)).bind_eq
    intro _
    exact Procedure.alike_pure rfl
  cases resolution with
  | registered r | created r => exact promotes _ _
  | adopted r =>
      apply (alike_plainCall plain scopes (.updateCluster _ _) (by simp)).bind_eq
      intro _
      exact promotes _ _

section

variable {s : Settings} {cluster cluster' : LocalCluster}

theorem alike_register (plain : K.Plain)
    (lists : ∀ identity, cluster.identity = .ok identity → K.ListsFor identity)
    (clusters : ClustersAlike K s cluster cluster') :
    Procedure.Alike K Eq (register cluster s) (register cluster' s) := by
  apply (alike_scopeOf clusters).bind
  intro scope scope' scopes
  rw [clusters.identity, clusters.version]
  cases self : cluster.identity with
  | error fault => exact Procedure.alike_throw (.lookup .identity fault)
  | ok identity =>
      have lists := lists identity self
      rw [Procedure.lookup_ok_bind, Procedure.lookup_ok_bind]
      apply (alike_resolveCloud plain scopes s.cloudId).bind_eq
      intro cloudId
      apply (alike_resolveCluster plain lists scopes cloudId s.clusterId _).bind_eq
      intro resolution
      cases resolution.isRegistered with
      | true => exact Procedure.alike_pure rfl
      | false =>
          apply (Procedure.alike_lookup cluster.version).bind_eq
          intro version
          exact alike_promote plain scopes s cloudId identity resolution version

theorem alike_unregister (plain : K.Plain) (clusters : ClustersAlike K s cluster cluster')
    (poll : PollPolicy) (clusterId : String) :
    Procedure.Alike K Eq (unregister cluster s poll clusterId)
      (unregister cluster' s poll clusterId) := by
  apply (alike_scopeOf clusters).bind
  intro scope scope' scopes
  apply (Procedure.alike_poll poll _ (alike_findPrivateCloud plain scopes)).bind_eq
  intro cloud
  cases cloud.bind (·.id) with
  | none => exact Procedure.alike_throw _
  | some cloudId =>
      apply (alike_plainCall plain scopes (.unmanage clusterId) (by simp)).bind_eq
      intro _
      exact alike_plainCall plain scopes (.deleteCluster cloudId clusterId) (by simp)

theorem alike_isManaged (plain : K.Plain) (clusters : ClustersAlike K s cluster cluster')
    (clusterId : String) :
    Procedure.Alike K Eq (isManaged cluster s clusterId) (isManaged cluster' s clusterId) := by
  apply (alike_scopeOf clusters).bind
  intro scope scope' scopes
  apply (alike_plainCall plain scopes (.getManagedCluster clusterId) (by simp)).bind_eq
  intro record
  exact Procedure.alike_pure rfl

end

end

end Enrollment.Registration
