import Enrollment.Proofs.Inventory.Tracking

/-!
# Stores on which a registration can be taken up again

A store is `Resumable` for an identity when the record that is tracked for it, if there is
one, is unique and fit to be gone on with. `Onward` compares a store with a later one: records
that are tracked stay tracked, and what has been created is accounted for by what was missing.
A call that `Advances` the identity keeps both, so that neither interruptions nor repetitions
lead to a second record.
-/

namespace Enrollment

/-- The record is registered for the identity, or can be promoted. -/
def ClusterRecord.IsFit (identity : String) (r : ClusterRecord) : Prop :=
  r.standing identity = .registered ∨ r.standing identity = .promotable

namespace Inventory

open Registration

namespace Store

/-- The record that is tracked for the identity, if there is one, can be gone on with. -/
structure Resumable (identity : String) (s : Store) : Prop where
  named : s.WellNamed
  sole : s.Sole identity
  fit : ∀ r ∈ s.clusters, r.isTrackedFor identity = true → r.idText ≠ "" ∧ r.IsFit identity

/-- A record with this id is tracked for the identity. -/
def Holds (identity id : String) (s : Store) : Prop :=
  ∃ r ∈ s.clusters, r.isTrackedFor identity = true ∧ r.id = some id

/-- How many clusters are to be created until one is tracked for the identity. -/
def missingClusters (identity : String) (s : Store) : Nat :=
  if (tracked? identity s.clusters).isSome then 0 else 1

/-- How many clouds are to be created until there is a private one. -/
def missingClouds (s : Store) : Nat := if (privateCloud? s.clouds).isSome then 0 else 1

/-- What is tracked stays tracked, and what has been created was missing. -/
structure Onward (identity : String) (s t : Store) : Prop where
  kept : ∀ r ∈ s.clusters, r.isTrackedFor identity = true →
    ∃ q ∈ t.clusters, q.isTrackedFor identity = true ∧ q.id = r.id
  writes : s.writes <+: t.writes
  clusters : t.writes.count .createCluster + t.missingClusters identity ≤
    s.writes.count .createCluster + s.missingClusters identity
  clouds : t.writes.count .createCloud + t.missingClouds ≤
    s.writes.count .createCloud + s.missingClouds

end Store

/-- What a call must find in a store in order to advance a registration for the identity. -/
def Call.Advances (identity : String) (s : Store) : Call → Prop
  | createCloud cloud => cloud = .privateCloud ∧ privateCloud? s.clouds = none
  | createCluster _ r =>
    r.identity = identity ∧ r.install = .known .pending ∧ tracked? identity s.clusters = none
  | promote r =>
    r.identity ≠ "" ∧ r.identity = identity ∧ (r.idText ≠ "" → s.Claimed identity r.idText)
  | unmanage _ | deleteCluster _ _ => False
  | _ => True

/-- The call takes no record away from the identity. -/
def Call.Keeps (identity : String) : Call → Prop
  | promote r => r.identity = identity
  | unmanage _ | deleteCluster _ _ => False
  | _ => True

theorem Call.keeps_of_advances {identity : String} {s : Store} {call : Call}
    (advances : call.Advances identity s) : call.Keeps identity := by
  cases call with
  | promote r => exact advances.2.1
  | unmanage | deleteCluster => exact advances.elim
  | _ => trivial

namespace Store

variable {s t u : Store} {call : Call} {a : call.Answer} {identity id : String}

theorem harmless_of_advances (advances : call.Advances identity s) : call.Harmless s := by
  cases call with
  | createCluster cloudId r =>
      obtain ⟨rfl, -, absent⟩ := advances
      exact fun q member => List.find?_eq_none.mp absent q member
  | promote r =>
      obtain ⟨nonempty, rfl, claimed⟩ := advances
      exact ⟨nonempty, claimed⟩
  | _ => trivial

/-! ## Going on -/

@[refl] theorem Onward.refl (identity : String) (s : Store) : s.Onward identity s :=
  ⟨fun r member tracked => ⟨r, member, tracked, rfl⟩, List.prefix_refl _, Nat.le_refl _,
    Nat.le_refl _⟩

theorem Onward.trans (first : s.Onward identity t) (rest : t.Onward identity u) :
    s.Onward identity u := by
  refine ⟨fun r member tracked => ?_, first.writes.trans rest.writes,
    Nat.le_trans rest.clusters first.clusters, Nat.le_trans rest.clouds first.clouds⟩
  obtain ⟨q, member, tracked, same⟩ := first.kept r member tracked
  obtain ⟨p, member, tracked, same'⟩ := rest.kept q member tracked
  exact ⟨p, member, tracked, same'.trans same⟩

theorem Onward.holds (h : s.Onward identity t) (held : s.Holds identity id) :
    t.Holds identity id := by
  obtain ⟨r, member, tracked, named⟩ := held
  obtain ⟨q, member, tracked, same⟩ := h.kept r member tracked
  exact ⟨q, member, tracked, same.trans named⟩

/-- Where one record is tracked at most, one id is held at most. -/
theorem Resumable.holds_unique (resumable : s.Resumable identity) {other : String}
    (held : s.Holds identity id) (held' : s.Holds identity other) : id = other := by
  obtain ⟨q, inside, tracked, named⟩ := held
  obtain ⟨r, inside', tracked', named'⟩ := held'
  have same := resumable.sole q inside r inside' tracked tracked'
  exact Option.some.inj (named.symm.trans (same.trans named'))

theorem Resumable.holds_tracked (resumable : s.Resumable identity) {r : ClusterRecord}
    (present : tracked? identity s.clusters = some r) :
    s.Holds identity r.idText ∧ r.IsFit identity := by
  obtain ⟨member, tracked⟩ := of_tracked? present
  obtain ⟨nonempty, fit⟩ := resumable.fit r member tracked
  exact ⟨⟨r, member, tracked, ClusterRecord.id_of_idText nonempty⟩, fit⟩

theorem Resumable.ne_empty (resumable : s.Resumable identity) (held : s.Holds identity id) :
    id ≠ "" := by
  obtain ⟨r, member, tracked, named⟩ := held
  rw [← ClusterRecord.idText_of_id named]
  exact (resumable.fit r member tracked).1

theorem missingClusters_eq_zero {r : ClusterRecord} (member : r ∈ s.clusters)
    (tracked : r.isTrackedFor identity = true) : s.missingClusters identity = 0 :=
  if_pos (List.find?_isSome.mpr ⟨r, member, tracked⟩)

theorem missingClouds_eq_zero {cloud : CloudRecord} (member : cloud ∈ s.clouds)
    (isPrivate : cloud.isPrivate = true) (hasId : cloud.hasId = true) : s.missingClouds = 0 :=
  if_pos (List.find?_isSome.mpr ⟨cloud, member, by simp [isPrivate, hasId]⟩)

theorem missingClusters_of_kept
    (kept : ∀ r ∈ s.clusters, r.isTrackedFor identity = true →
      ∃ q ∈ t.clusters, q.isTrackedFor identity = true ∧ q.id = r.id) :
    t.missingClusters identity ≤ s.missingClusters identity := by
  by_cases present : (tracked? identity s.clusters).isSome = true
  · obtain ⟨r, member, tracked⟩ := List.find?_isSome.mp present
    obtain ⟨q, member, tracked, -⟩ := kept r member tracked
    rw [missingClusters_eq_zero member tracked]
    exact Nat.zero_le _
  · rw [missingClusters, missingClusters, if_neg present]
    split <;> omega

theorem missingClusters_le_one (identity : String) (s : Store) :
    s.missingClusters identity ≤ 1 := by
  rw [missingClusters]
  split <;> omega

theorem missingClouds_le_one (s : Store) : s.missingClouds ≤ 1 := by
  rw [missingClouds]
  split <;> omega

/-- On the way one cluster at most is created, none if one was tracked, and one cloud. -/
theorem Onward.creations (h : s.Onward identity t) :
    ∃ writes, t.writes = s.writes ++ writes ∧ writes.count .createCluster ≤ 1 ∧
      ((∃ r ∈ s.clusters, r.isTrackedFor identity = true) →
        writes.count .createCluster = 0) ∧ writes.count .createCloud ≤ 1 := by
  obtain ⟨writes, grown⟩ := h.writes
  have clusters := h.clusters
  have clouds := h.clouds
  have missing := s.missingClusters_le_one identity
  have missing' := s.missingClouds_le_one
  rw [← grown, List.count_append] at clusters clouds
  refine ⟨writes, grown.symm, by omega, ?_, by omega⟩
  rintro ⟨r, member, tracked⟩
  rw [missingClusters_eq_zero member tracked] at clusters
  omega

theorem kept_of_modifyFirst {f : ClusterRecord → ClusterRecord}
    {before after : List ClusterRecord} (changed : modifyFirst id f before = some after)
    (keeps : ∀ r, r.isTrackedFor identity = true →
      (f r).isTrackedFor identity = true ∧ (f r).id = r.id)
    {r : ClusterRecord} (member : r ∈ before) (tracked : r.isTrackedFor identity = true) :
    ∃ q ∈ after, q.isTrackedFor identity = true ∧ q.id = r.id := by
  obtain ⟨front, c, back, rfl, -, rfl⟩ := modifyFirst_eq_some changed
  rcases List.mem_append.mp member with member | member
  · exact ⟨r, List.mem_append_left _ member, tracked, rfl⟩
  · rcases List.mem_cons.mp member with rfl | member
    · obtain ⟨tracked, same⟩ := keeps r tracked
      exact ⟨f r, List.mem_append_right _ List.mem_cons_self, tracked, same⟩
    · exact ⟨r, List.mem_append_right _ (List.mem_cons_of_mem _ member), tracked, rfl⟩

theorem identity_promoted {r c : ClusterRecord} (self : r.identity = identity)
    (same : c.identity = identity) : (promoted r c).identity = identity := by
  simp only [promoted]
  split
  · exact same
  · exact self

theorem isTrackedFor_promoted {r c : ClusterRecord} (self : r.identity = identity)
    (tracked : c.isTrackedFor identity = true) :
    (promoted r c).isTrackedFor identity = true := by
  have same := (ClusterRecord.isTrackedFor_iff.mp tracked).1
  exact ClusterRecord.isTrackedFor_iff.mpr ⟨identity_promoted self same, by simp [promoted]⟩

/-- What is tracked for the identity stays so. -/
theorem Effect.kept (h : s.Effect call a t) (keeps : call.Keeps identity)
    {r : ClusterRecord} (member : r ∈ s.clusters) (tracked : r.isTrackedFor identity = true) :
    ∃ q ∈ t.clusters, q.isTrackedFor identity = true ∧ q.id = r.id := by
  cases h with
  | cloudRead | cloudsListed | cloudCreated | clustersListed | clusterRead | managedRead =>
      exact ⟨r, member, tracked, rfl⟩
  | clusterCreated => exact ⟨r, List.mem_append_left _ member, tracked, rfl⟩
  | clusterUpdated _ changed =>
      exact kept_of_modifyFirst changed (fun _ tracked => ⟨tracked, rfl⟩) member tracked
  | clusterPromoted _ changed =>
      refine kept_of_modifyFirst changed (fun c tracked => ⟨?_, rfl⟩) member tracked
      exact isTrackedFor_promoted keeps tracked
  | clusterUnmanaged | clusterDeleted => exact keeps.elim

/-- An id that has been drawn is not empty. -/
theorem hasId_of_drawn {cloud : CloudRecord} {kind : String}
    (drawn : cloud.id = some (s.nextId kind)) : cloud.hasId = true := by
  have nonempty : s.nextId kind ≠ "" := idText_ne_empty kind (s.issued + 1)
  simp [CloudRecord.hasId, drawn, nonempty]

theorem isTrackedFor_created {cloudId : String} {r : ClusterRecord} (self : r.identity = identity)
    (pending : r.install = .known .pending) :
    (created id cloudId r).isTrackedFor identity = true :=
  ClusterRecord.isTrackedFor_iff.mpr ⟨self, by simp [created, ClusterRecord.stamped, pending]⟩

/-- A record that has been created is waiting to be promoted. -/
theorem isFit_created {cloudId : String} {r : ClusterRecord} (self : r.identity = identity)
    (pending : r.install = .known .pending) : (created id cloudId r).IsFit identity := by
  refine .inr ?_
  simp [ClusterRecord.standing, ClusterRecord.standingByState, created, ClusterRecord.stamped,
    pending, self]

/-- A record that has been promoted is registered. -/
theorem standing_promoted {r c : ClusterRecord} (nonempty : r.identity ≠ "") :
    (promoted r c).standing r.identity = .registered := by
  simp [ClusterRecord.standing, ClusterRecord.standingByState, promoted, nonempty]

/-- A call that advances a registration only creates what was missing. -/
theorem Effect.onward (h : s.Effect call a t) (advances : call.Advances identity s) :
    s.Onward identity t := by
  have kept := fun r member tracked =>
    h.kept (Call.keeps_of_advances advances) (r := r) member tracked
  have fewer := missingClusters_of_kept kept
  refine ⟨kept, h.writes_prefix, ?_, ?_⟩
  · cases h with
    | cloudRead | cloudsListed | clustersListed | clusterRead | managedRead => exact Nat.le_refl _
    | cloudCreated | clusterUpdated | clusterPromoted =>
        simpa [List.count_append] using fewer
    | clusterCreated =>
        obtain ⟨self, pending, absent⟩ := advances
        rw [missingClusters_eq_zero (List.mem_append_right _ List.mem_cons_self)
          (isTrackedFor_created self pending)]
        simp [List.count_append, missingClusters, absent]
    | clusterUnmanaged | clusterDeleted => exact advances.elim
  · cases h with
    | cloudRead | cloudsListed | clustersListed | clusterRead | managedRead => exact Nat.le_refl _
    | clusterCreated | clusterUpdated | clusterPromoted =>
        simp [List.count_append, missingClouds]
    | cloudCreated =>
        obtain ⟨rfl, absent⟩ := advances
        rw [missingClouds_eq_zero (List.mem_append_right _ List.mem_cons_self) rfl
          (hasId_of_drawn rfl)]
        simp [List.count_append, missingClouds, absent]
    | clusterUnmanaged | clusterDeleted => exact advances.elim

/-- The record that a call leaves is as fit as the one that it found. -/
theorem Effect.resumable (h : s.Effect call a t) (advances : call.Advances identity s)
    (resumable : s.Resumable identity) : t.Resumable identity := by
  refine ⟨h.wellNamed resumable.named, h.sole (harmless_of_advances advances) resumable.sole,
    fun q member tracked => ?_⟩
  cases h with
  | cloudRead | cloudsListed | cloudCreated | clustersListed | clusterRead | managedRead =>
      exact resumable.fit q member tracked
  | clusterCreated =>
      rcases List.mem_append.mp member with member | new
      · exact resumable.fit q member tracked
      · obtain rfl := List.mem_singleton.mp new
        exact ⟨idText_ne_empty "cluster" (s.issued + 1), isFit_created advances.1 advances.2.1⟩
  | clusterUpdated _ changed =>
      rcases mem_modifyFirst changed member with old | ⟨r, old, -, rfl⟩
      · exact resumable.fit q old tracked
      · exact resumable.fit r old tracked
  | clusterPromoted named changed =>
      rcases mem_modifyFirst changed member with old | ⟨r, old, same, rfl⟩
      · exact resumable.fit q old tracked
      · rw [show (promoted _ r).idText = r.idText from rfl, ClusterRecord.idText_of_id same]
        obtain ⟨nonempty, rfl, -⟩ := advances
        exact ⟨named, .inl (standing_promoted nonempty)⟩
  | clusterUnmanaged | clusterDeleted => exact advances.elim

end Store

end Inventory

end Enrollment
