import Enrollment.Proofs.Inventory.Reaction
import Mathlib.Data.List.Nodup

/-!
# Calls touch their own record only

A call that fails leaves a store as it is, and so does a call that reads. A call that writes adds
one entry to the log, and one record at most is no longer what or where it was: the cloud or the
cluster that is created is put in at the end, the cluster that is deleted is taken out, and the
cluster that is updated, promoted or unmanaged is another in some of its slots. Which slots these
are is a matter of the call, and `Slot` has a name for each of them.
-/

namespace Enrollment

namespace ClusterRecord

/-- The slots of a cluster record. -/
inductive Slot where
  | id
  | typeTag
  | version
  | name
  | state
  | managedState
  | desiredState
  | cloudId
  | identity
  | install
  | distro
  | clusterVersion
  | versionString
  | namespaceName
  | apiServerUrl
  | credentialId
  | capabilities
  deriving DecidableEq, Repr

abbrev Slot.Content : Slot → Type
  | id => Option String
  | state => ClusterState
  | managedState | desiredState => ManagedState
  | install => ConnectorInstall
  | capabilities => List String
  | _ => String

/-- What a record holds in one of its slots. -/
def get (r : ClusterRecord) : (slot : Slot) → slot.Content
  | .id => r.id
  | .typeTag => r.typeTag
  | .version => r.version
  | .name => r.name
  | .state => r.state
  | .managedState => r.managedState
  | .desiredState => r.desiredState
  | .cloudId => r.cloudId
  | .identity => r.identity
  | .install => r.install
  | .distro => r.distro
  | .clusterVersion => r.clusterVersion
  | .versionString => r.versionString
  | .namespaceName => r.namespaceName
  | .apiServerUrl => r.apiServerUrl
  | .credentialId => r.credentialId
  | .capabilities => r.capabilities

/-- A record has no other slots. -/
theorem eq_of_get {q r : ClusterRecord} (same : ∀ slot, q.get slot = r.get slot) : q = r := by
  cases q
  cases r
  rw [mk.injEq]
  exact ⟨same .id, same .typeTag, same .version, same .name, same .state, same .managedState,
    same .desiredState, same .cloudId, same .identity, same .install, same .distro,
    same .clusterVersion, same .versionString, same .namespaceName, same .apiServerUrl,
    same .credentialId, same .capabilities⟩

end ClusterRecord

namespace Inventory

open ClusterRecord (Slot)

/-! ## What a call may touch -/

/-- The entry in the log of a call that writes. -/
def Call.entry? : Call → Option Write
  | createCloud _ => some .createCloud
  | createCluster _ _ => some .createCluster
  | updateCluster _ r => some (.updateCluster r.idText)
  | promote r => some (.promote r.idText)
  | unmanage id => some (.unmanage id)
  | deleteCluster _ id => some (.deleteCluster id)
  | getCloud _ | listClouds | listClusters | getCluster _ _ | getManagedCluster _ => none

namespace Store

/-- Clouds and clusters are the same in both stores, and so are the log of the writes and the
number of the ids that have been drawn. -/
structure Intact (s t : Store) : Prop where
  clouds : t.clouds = s.clouds
  clusters : t.clusters = s.clusters
  writes : t.writes = s.writes
  issued : t.issued = s.issued

/-- One record has this id. In these slots it comes to hold what `source` does, and in all others
it stays what it was. Every other record stays what and where it was. -/
def Rewritten (id : String) (slots : List Slot) (source : ClusterRecord)
    (before after : List ClusterRecord) : Prop :=
  ∃ front r r' back, before = front ++ r :: back ∧ after = front ++ r' :: back ∧
    r.id = some id ∧ (∀ q ∈ front ++ back, q.id ≠ some id) ∧
    ∀ slot, r'.get slot = (if slot ∈ slots then source else r).get slot

/-- One record has this id, and it is taken out. -/
def Removed (id : String) (before after : List ClusterRecord) : Prop :=
  ∃ front r back, before = front ++ r :: back ∧ after = front ++ back ∧
    r.id = some id ∧ ∀ q ∈ front ++ back, q.id ≠ some id

/-- The clouds behind a call that has been answered. -/
def CloudsBehind (before after : List CloudRecord) : (call : Call) → call.Answer → Prop
  | .createCloud given, cloud =>
    after = before ++ [cloud] ∧ cloud = { given with id := cloud.id }
  | _, _ => after = before

/-- The clusters behind a call that has been answered. A promotion claims the record for an
identity, unless that is empty. -/
def ClustersBehind (before after : List ClusterRecord) : (call : Call) → call.Answer → Prop
  | .createCluster _ given, r =>
    after = before ++ [r] ∧
      ∀ slot ∉ [Slot.id, .typeTag, .version, .state, .managedState, .cloudId],
        r.get slot = given.get slot
  | .updateCluster _ given, _ =>
    Rewritten given.idText [.name, .distro, .clusterVersion, .versionString, .capabilities] given
      before after
  | .promote given, _ =>
    Rewritten given.idText
      ([.install, .managedState, .namespaceName, .apiServerUrl, .credentialId] ++
        if given.identity = "" then [] else [.identity])
      { given with install := .known .installed, managedState := .known .managed } before after
  | .unmanage id, _ =>
    Rewritten id [.managedState] { managedState := .known .unmanaged } before after
  | .deleteCluster _ id, _ => Removed id before after
  | .getCloud _, _ | .listClouds, _ | .createCloud _, _ | .listClusters, _ | .getCluster _ _, _
  | .getManagedCluster _, _ => after = before

/-- A call has written, and has touched nothing but its own record. -/
structure Wrote (s : Store) (call : Call) (a : call.Answer) (t : Store) : Prop where
  logged : ∃ entry, call.entry? = some entry ∧ t.writes = s.writes ++ [entry]
  clouds : CloudsBehind s.clouds t.clouds call a
  clusters : ClustersBehind s.clusters t.clusters call a

/-! ## What it does touch -/

variable {s t : Store} {call : Call} {a : call.Answer} {id : String}
variable {before after : List ClusterRecord}

theorem Intact.of_contents (same : t.contents = s.contents) : s.Intact t where
  clouds := by rw [← clouds_contents t, same, clouds_contents]
  clusters := by rw [← clusters_contents t, same, clusters_contents]
  writes := show t.contents.writes = s.contents.writes by rw [same]
  issued := show t.contents.issued = s.contents.issued by rw [same]

/-- Where ids are distinct, no other record has the id of this one. -/
theorem others_of_distinct {front back : List ClusterRecord} {r : ClusterRecord}
    (distinct : ((front ++ r :: back).map (·.id)).Nodup) (named : r.id = some id) :
    ∀ q ∈ front ++ back, q.id ≠ some id := by
  rw [List.map_append, List.map_cons, List.nodup_middle, ← List.map_append,
    List.nodup_cons] at distinct
  intro q member same
  apply distinct.1
  rw [named, ← same]
  exact List.mem_map_of_mem member

/-- A change to the first record with an id rewrites the slots that it changes. -/
theorem rewritten_of_modifyFirst {f : ClusterRecord → ClusterRecord} {slots : List Slot}
    {source : ClusterRecord} (changed : modifyFirst id f before = some after)
    (distinct : (before.map (·.id)).Nodup)
    (rewrites : ∀ r slot, (f r).get slot = (if slot ∈ slots then source else r).get slot) :
    Rewritten id slots source before after := by
  obtain ⟨front, r, back, rfl, named, rfl⟩ := modifyFirst_eq_some changed
  exact ⟨front, r, f r, back, rfl, rfl, named, others_of_distinct distinct named, rewrites r⟩

theorem removed_of_present (present : (s.cluster? id).isSome = true)
    (distinct : (s.clusters.map (·.id)).Nodup) :
    Removed id s.clusters (s.clusters.filter (·.id ≠ some id)) := by
  obtain ⟨r, found⟩ := Option.isSome_iff_exists.mp present
  obtain ⟨member, named⟩ := mem_of_cluster? found
  obtain ⟨front, back, split⟩ := List.append_of_mem member
  rw [split] at distinct
  have others := others_of_distinct distinct named
  refine ⟨front, r, back, split, ?_, named, others⟩
  rw [split, filter_ne_append_cons named]
  exact List.filter_eq_self.mpr fun q member => decide_eq_true (others q member)

/-! Each change, slot by slot. -/

theorem get_updated (given r : ClusterRecord) (slot : Slot) :
    (updated given r).get slot =
      (if slot ∈ [.name, .distro, .clusterVersion, .versionString, .capabilities] then given
        else r).get slot := by
  cases slot <;> rfl

theorem get_promoted (given r : ClusterRecord) (slot : Slot) :
    (promoted given r).get slot =
      (if slot ∈ [.install, .managedState, .namespaceName, .apiServerUrl, .credentialId] ++
          (if given.identity = "" then [] else [.identity])
        then { given with install := .known .installed, managedState := .known .managed }
        else r).get slot := by
  by_cases empty : given.identity = ""
  · rw [if_pos empty]
    have kept : (promoted given r).identity = r.identity := by simp [promoted, empty]
    cases slot <;> first | rfl | exact kept
  · rw [if_neg empty]
    have claimed : (promoted given r).identity = given.identity := by simp [promoted, empty]
    cases slot <;> first | rfl | exact claimed

theorem get_unmanaged (r : ClusterRecord) (slot : Slot) :
    (unmanaged r).get slot =
      (if slot ∈ [.managedState] then { managedState := .known .unmanaged } else r).get slot := by
  cases slot <;> rfl

theorem get_created (id cloudId : String) (given : ClusterRecord) (slot : Slot)
    (other : slot ∉ [Slot.id, .typeTag, .version, .state, .managedState, .cloudId]) :
    (created id cloudId given).get slot = given.get slot := by
  cases slot <;> first | rfl | exact absurd other (by decide)

/-- A read leaves a store as it is. -/
theorem Effect.eq_of_isRead (h : s.Effect call a t) (reads : isRead call = true) : t = s := by
  cases h <;> first | rfl | cases reads

/-- A write touches its own record only. -/
theorem Effect.wrote (h : s.Effect call a t) (writes : isRead call = false)
    (distinct : (s.clusters.map (·.id)).Nodup) : s.Wrote call a t := by
  cases h with
  | cloudRead | cloudsListed | clustersListed | clusterRead | managedRead => cases writes
  | cloudCreated => exact ⟨⟨_, rfl, rfl⟩, ⟨rfl, rfl⟩, rfl⟩
  | clusterCreated =>
      exact ⟨⟨_, rfl, rfl⟩, rfl, rfl, fun slot => get_created _ _ _ slot⟩
  | @clusterUpdated cloudId id r clusters named changed =>
      obtain rfl : r.idText = id := by rw [ClusterRecord.idText, named, Option.getD_some]
      exact ⟨⟨_, rfl, rfl⟩, rfl, rewritten_of_modifyFirst changed distinct (get_updated r)⟩
  | @clusterPromoted r clusters named changed =>
      exact ⟨⟨_, rfl, rfl⟩, rfl, rewritten_of_modifyFirst changed distinct (get_promoted r)⟩
  | clusterUnmanaged changed =>
      exact ⟨⟨_, rfl, rfl⟩, rfl, rewritten_of_modifyFirst changed distinct get_unmanaged⟩
  | clusterDeleted present =>
      exact ⟨⟨_, rfl, rfl⟩, rfl, removed_of_present present distinct⟩

section

variable {out : Except Failure call.Answer}

theorem Performs.intact_of_error {e : Failure} (h : s.Performs call out t)
    (failed : out = .error e) : s.Intact t := by
  cases h with
  | unavailable => exact .of_contents rfl
  | failed _ _ same => exact .of_contents same
  | done => cases failed

theorem Performs.intact_of_isRead (h : s.Performs call out t) (reads : isRead call = true) :
    s.Intact t := by
  cases h with
  | unavailable => exact .of_contents rfl
  | failed _ _ same => exact .of_contents same
  | done _ effect => exact .of_contents (effect.eq_of_isRead reads)

theorem Performs.wrote (h : s.Performs call out t) (answered : out = .ok a)
    (writes : isRead call = false) (distinct : (s.clusters.map (·.id)).Nodup) :
    s.Wrote call a t := by
  cases h with
  | unavailable | failed => cases answered
  | done _ effect =>
      cases answered
      obtain ⟨logged, clouds, clusters⟩ := effect.wrote writes distinct
      exact ⟨logged, clouds, clusters⟩

end

/-- A call is carried out as a whole or not at all, and it touches its own record only. When it
fails, clouds, clusters, the log of the writes and the number of the ids drawn are what they were;
so they are behind every read. When a write is answered, its entry is added to the log, clouds stay
as they are but for one that is created, and so do clusters, in their order, but for the one that
the call is about; and of that one only those slots are changed that are the matter of the call. -/
theorem perform_touches_own_record (s : Store) (call : Call)
    (distinct : (s.clusters.map (·.id)).Nodup) :
    let t := (perform call s).2
    (∀ e, (perform call s).1 = .error e → s.Intact t) ∧
    (isRead call = true → s.Intact t) ∧
    ∀ a, (perform call s).1 = .ok a → isRead call = false → s.Wrote call a t := by
  intro t
  have performs := performs call s
  exact ⟨fun e => performs.intact_of_error, performs.intact_of_isRead,
    fun a answered writes => performs.wrote answered writes distinct⟩

/-- A record in the middle is promoted, and is claimed for an identity on the way. -/
theorem promotion_touches_own_record :
    let s : Store :=
      { clouds := [{ id := some "cloud" }]
        clusters := [{ id := some "a" }, { id := some "b", name := "n" }, { id := some "c" }] }
    let call : Call := .promote { id := some "b", identity := "i", name := "other" }
    (s.clusters.map (·.id)).Nodup ∧ (perform call s).1 = .ok () ∧ isRead call = false ∧
    s.Wrote call () (perform call s).2 := by
  intro s call
  have distinct : (s.clusters.map (·.id)).Nodup := by decide
  have answered : (perform call s).1 = .ok () := by decide
  exact ⟨distinct, answered, rfl, (perform_touches_own_record s call distinct).2.2 () answered rfl⟩

end Store

end Inventory

end Enrollment
