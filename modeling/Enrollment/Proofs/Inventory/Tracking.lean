import Enrollment.Proofs.Inventory.Effect
import Enrollment.Registration.Cluster
import Mathlib.Data.List.Nodup

/-!
# Which records a store tracks

A store is well named when no two clusters have the same id and when no cluster has an id
that is still to be drawn. Every call keeps it so. An identity is tracked by one record when
all records that are tracked for it have the same id; only creating and promoting a record can
break that, and `Harmless` says what either has to know in order not to.
-/

namespace Enrollment

theorem ClusterRecord.isTrackedFor_iff {identity : String} {r : ClusterRecord} :
    r.isTrackedFor identity = true ↔ r.identity = identity ∧ r.install ≠ .unset := by
  unfold isTrackedFor
  cases r.install <;> simp

theorem ClusterRecord.idText_of_id {r : ClusterRecord} {id : String} (named : r.id = some id) :
    r.idText = id := by
  rw [idText, named]
  rfl

theorem ClusterRecord.id_of_idText {r : ClusterRecord} (named : r.idText ≠ "") :
    r.id = some r.idText := by
  cases id : r.id with
  | none =>
      rw [idText, id] at named
      exact absurd rfl named
  | some text => rw [idText_of_id id]

namespace Inventory

namespace Store

variable {s t : Store} {call : Call} {a : call.Answer} {identity id : String}

/-! ## Ids -/

/-- The ids of the clusters differ, and none of them is still to be drawn. -/
structure WellNamed (s : Store) : Prop where
  distinct : (s.clusters.map (·.id)).Nodup
  undrawn : ∀ n, s.issued < n → some (idText "cluster" n) ∉ s.clusters.map (·.id)

theorem WellNamed.of_ids (h : s.WellNamed) (ids : t.clusters.map (·.id) = s.clusters.map (·.id))
    (issued : s.issued ≤ t.issued) : t.WellNamed := by
  constructor
  · rw [ids]
    exact h.distinct
  · intro n later
    rw [ids]
    exact h.undrawn n (Nat.lt_of_le_of_lt issued later)

/-- A record whose id has just been drawn may be put in. -/
theorem WellNamed.append (h : s.WellNamed) {r : ClusterRecord}
    (drawn : r.id = some (s.nextId "cluster")) (clusters : t.clusters = s.clusters ++ [r])
    (issued : t.issued = s.issued + 1) : t.WellNamed := by
  have fresh := h.undrawn (s.issued + 1) (Nat.lt_succ_self _)
  constructor
  · rw [clusters, List.map_append, List.map_singleton, drawn]
    refine List.nodup_append.mpr ⟨h.distinct, List.nodup_singleton _, ?_⟩
    rintro _ member _ new rfl
    exact fresh (List.mem_singleton.mp new ▸ member)
  · intro n later
    rw [clusters, List.map_append, List.map_singleton, drawn, List.mem_append,
      List.mem_singleton]
    rintro (member | same)
    · exact h.undrawn n (by omega) member
    · have number := idText_injective "cluster" (Option.some.inj same)
      omega

theorem map_id_modifyFirst {f : ClusterRecord → ClusterRecord} {before after : List ClusterRecord}
    (changed : modifyFirst id f before = some after) (keeps : ∀ r, (f r).id = r.id) :
    after.map (·.id) = before.map (·.id) := by
  obtain ⟨front, r, back, rfl, -, rfl⟩ := modifyFirst_eq_some changed
  simp [keeps]

/-- Every call keeps a store well named. -/
theorem Effect.wellNamed (h : s.Effect call a t) (named : s.WellNamed) : t.WellNamed := by
  cases h with
  | cloudRead | cloudsListed | clustersListed | clusterRead | managedRead => exact named
  | cloudCreated => exact named.of_ids rfl (Nat.le_succ _)
  | clusterCreated => exact named.append rfl rfl rfl
  | clusterUpdated _ changed | clusterPromoted _ changed | clusterUnmanaged changed =>
      exact named.of_ids (map_id_modifyFirst changed fun _ => rfl) (Nat.le_refl _)
  | clusterDeleted =>
      constructor
      · exact named.distinct.sublist (List.filter_sublist.map _)
      · intro n later member
        exact named.undrawn n later ((List.filter_sublist.map _).subset member)

/-! A new store that records without ids are put in. -/

end Store

/-- A record that an inventory starts with. -/
inductive Seed where
  | cloud (cloud : CloudRecord)
  | cluster (cluster : ClusterRecord)

/-- The id that a seed comes with. -/
def Seed.id : Seed → Option String
  | cloud r => r.id
  | cluster r => r.id

namespace Store

variable {s t : Store} {call : Call} {a : call.Answer} {identity id : String}

/-- The store with one more record put in. -/
def seed (s : Store) : Seed → Store
  | .cloud r => (s.insertCloud r).2
  | .cluster r => (s.insertCluster r).2

/-- A new store with these records put in. -/
def seeded (seeds : List Seed) : Store := seeds.foldl seed {}

theorem WellNamed.seed (h : s.WellNamed) {r : Seed} (idless : r.id = none) :
    (s.seed r).WellNamed := by
  cases r with
  | cloud r =>
      replace idless : r.id = none := idless
      simp only [Store.seed, insertCloud, idless]
      exact h.of_ids rfl (Nat.le_succ _)
  | cluster r =>
      replace idless : r.id = none := idless
      simp only [Store.seed, insertCluster, idless]
      exact h.append rfl rfl rfl

theorem wellNamed_seeded {seeds : List Seed} (idless : ∀ r ∈ seeds, r.id = none) :
    (seeded seeds).WellNamed := by
  have start : WellNamed {} := ⟨List.nodup_nil, fun _ _ => List.not_mem_nil⟩
  unfold seeded
  generalize ({} : Store) = s at start
  induction seeds generalizing s with
  | nil => exact start
  | cons r rest ih =>
      refine ih (fun q member => idless q (List.mem_cons_of_mem r member)) (s.seed r) ?_
      exact start.seed (idless r List.mem_cons_self)

/-! ## Tracked records -/

/-- For every identity that is not empty, one record at most is tracked. -/
def SingleTracked (s : Store) : Prop :=
  ∀ identity, identity ≠ "" → (s.clusters.filter (·.isTrackedFor identity)).length ≤ 1

/-- All records that are tracked for the identity have one id. -/
def Sole (s : Store) (identity : String) : Prop :=
  ∀ q ∈ s.clusters, ∀ r ∈ s.clusters, q.isTrackedFor identity = true →
    r.isTrackedFor identity = true → q.id = r.id

/-- No record but the one with this id is tracked for the identity. -/
def Claimed (s : Store) (identity id : String) : Prop :=
  ∀ r ∈ s.clusters, r.isTrackedFor identity = true → r.id = some id

theorem Claimed.sole (h : s.Claimed identity id) : s.Sole identity := by
  intro q inside r inside' tracked tracked'
  rw [h q inside tracked, h r inside' tracked']

theorem Sole.claimed (h : s.Sole identity) {r : ClusterRecord} (member : r ∈ s.clusters)
    (tracked : r.isTrackedFor identity = true) (named : r.id = some id) :
    s.Claimed identity id := by
  intro q inside tracked'
  rw [h q inside r member tracked' tracked, named]

theorem eq_of_length_le_one {α : Type} {l : List α} {x y : α} (short : l.length ≤ 1) (left : x ∈ l)
    (right : y ∈ l) : x = y := by
  cases l with
  | nil => exact absurd left List.not_mem_nil
  | cons z rest =>
      obtain rfl : rest = [] := List.length_eq_zero_iff.mp (by simpa using short)
      rw [List.mem_singleton.mp left, List.mem_singleton.mp right]

/-- In a store that is well named, one id means one record. -/
theorem WellNamed.length_tracked (h : s.WellNamed) :
    (s.clusters.filter (·.isTrackedFor identity)).length ≤ 1 ↔ s.Sole identity := by
  constructor
  · intro short q inside r inside' tracked tracked'
    have same := eq_of_length_le_one short (List.mem_filter.mpr ⟨inside, tracked⟩)
      (List.mem_filter.mpr ⟨inside', tracked'⟩)
    rw [same]
  · intro sole
    have ids : ((s.clusters.filter (·.isTrackedFor identity)).map (·.id)).Nodup :=
      h.distinct.sublist (List.filter_sublist.map _)
    have member : ∀ r ∈ s.clusters.filter (·.isTrackedFor identity),
        r ∈ s.clusters ∧ r.isTrackedFor identity = true := fun r => List.mem_filter.mp
    cases split : s.clusters.filter (·.isTrackedFor identity) with
    | nil => exact Nat.zero_le 1
    | cons x rest =>
        cases rest with
        | nil => exact Nat.le_refl 1
        | cons y rest =>
            rw [split] at ids member
            have first := member x List.mem_cons_self
            have second := member y (List.mem_cons_of_mem x List.mem_cons_self)
            have same := sole x first.1 y second.1 first.2 second.2
            exact absurd ids (by simp [same])

/-! ## What calls do to them -/

end Store

/-- The call neither creates a record for the identity nor promotes one for it. -/
def Call.Spares (identity : String) : Call → Prop
  | createCluster _ r => r.identity ≠ identity
  | promote r => r.identity ≠ "" ∧ r.identity ≠ identity
  | _ => True

/-- What a call that creates or promotes a record must find in the store. A record without an
id is never promoted. -/
def Call.Harmless (s : Store) : Call → Prop
  | createCluster _ r => ∀ q ∈ s.clusters, ¬ q.isTrackedFor r.identity = true
  | promote r => r.identity ≠ "" ∧ (r.idText ≠ "" → s.Claimed r.identity r.idText)
  | _ => True

namespace Store

variable {s t : Store} {call : Call} {a : call.Answer} {identity id : String}

theorem mem_modifyFirst {f : ClusterRecord → ClusterRecord} {before after : List ClusterRecord}
    (changed : modifyFirst id f before = some after) {q : ClusterRecord} (member : q ∈ after) :
    q ∈ before ∨ ∃ r ∈ before, r.id = some id ∧ q = f r := by
  obtain ⟨front, r, back, rfl, named, rfl⟩ := modifyFirst_eq_some changed
  rcases List.mem_append.mp member with front | back
  · exact .inl (List.mem_append_left _ front)
  · rcases List.mem_cons.mp back with rfl | back
    · exact .inr ⟨r, by simp, named, rfl⟩
    · exact .inl (List.mem_append_right _ (List.mem_cons_of_mem r back))

/-- A change that leaves the identity, the connector state and the id alone tracks nothing new. -/
theorem tracked_of_modifyFirst {f : ClusterRecord → ClusterRecord}
    {before after : List ClusterRecord} (changed : modifyFirst id f before = some after)
    (keeps : ∀ r, (f r).isTrackedFor identity = r.isTrackedFor identity ∧ (f r).id = r.id)
    {q : ClusterRecord} (member : q ∈ after) (tracked : q.isTrackedFor identity = true) :
    ∃ r ∈ before, r.isTrackedFor identity = true ∧ r.id = q.id := by
  rcases mem_modifyFirst changed member with old | ⟨r, old, -, rfl⟩
  · exact ⟨q, old, tracked, rfl⟩
  · exact ⟨r, old, (keeps r).1 ▸ tracked, (keeps r).2.symm⟩

/-- What is tracked behind a call that spares the identity was tracked in front of it. -/
theorem Effect.tracked_of (h : s.Effect call a t) (spares : call.Spares identity)
    {q : ClusterRecord} (member : q ∈ t.clusters) (tracked : q.isTrackedFor identity = true) :
    ∃ r ∈ s.clusters, r.isTrackedFor identity = true ∧ r.id = q.id := by
  cases h with
  | cloudRead | cloudsListed | cloudCreated | clustersListed | clusterRead | managedRead =>
      exact ⟨q, member, tracked, rfl⟩
  | clusterCreated =>
      rcases List.mem_append.mp member with old | new
      · exact ⟨q, old, tracked, rfl⟩
      · obtain rfl := List.mem_singleton.mp new
        exact absurd (ClusterRecord.isTrackedFor_iff.mp tracked).1 spares
  | clusterUpdated _ changed | clusterUnmanaged changed =>
      exact tracked_of_modifyFirst changed (fun _ => ⟨rfl, rfl⟩) member tracked
  | clusterPromoted _ changed =>
      rcases mem_modifyFirst changed member with old | ⟨r, -, -, rfl⟩
      · exact ⟨q, old, tracked, rfl⟩
      · have same := (ClusterRecord.isTrackedFor_iff.mp tracked).1
        rw [promoted, if_neg (by simpa using spares.1)] at same
        exact absurd same spares.2
  | clusterDeleted => exact ⟨q, List.mem_of_mem_filter member, tracked, rfl⟩

theorem Effect.claimed (h : s.Effect call a t) (spares : call.Spares identity)
    (claimed : s.Claimed identity id) : t.Claimed identity id := by
  intro q member tracked
  obtain ⟨r, old, tracked, same⟩ := h.tracked_of spares member tracked
  rw [← same, claimed r old tracked]

/-- A record that is created when none is tracked is the only one. -/
theorem Effect.claimed_of_create {cloudId : String} {r : ClusterRecord} {a : ClusterRecord}
    (h : s.Effect (.createCluster cloudId r) a t)
    (harmless : (Call.createCluster cloudId r).Harmless s) :
    t.Claimed r.identity a.idText ∧ a.identity = r.identity := by
  cases h with
  | clusterCreated =>
      refine ⟨fun q member tracked => ?_, rfl⟩
      rcases List.mem_append.mp member with old | new
      · exact absurd tracked (harmless q old)
      · rw [List.mem_singleton.mp new]
        rfl

/-- A record that is promoted when no other is tracked stays the only one. -/
theorem Effect.claimed_of_promote {r : ClusterRecord} (h : s.Effect (.promote r) () t)
    (harmless : (Call.promote r).Harmless s) : t.Claimed r.identity r.idText := by
  cases h with
  | clusterPromoted named changed =>
      intro q member tracked
      rcases mem_modifyFirst changed member with old | ⟨_, -, same, rfl⟩
      · exact harmless.2 named q old tracked
      · exact same

theorem Effect.sole_of_spares (h : s.Effect call a t) (spares : call.Spares identity)
    (sole : s.Sole identity) : t.Sole identity := by
  intro q inside q' inside' tracked tracked'
  obtain ⟨r, old, tracked, same⟩ := h.tracked_of spares inside tracked
  obtain ⟨r', old', tracked', same'⟩ := h.tracked_of spares inside' tracked'
  rw [← same, ← same', sole r old r' old' tracked tracked']

/-- A harmless call does not make an identity ambiguous. -/
theorem Effect.sole (h : s.Effect call a t) (harmless : call.Harmless s)
    (sole : s.Sole identity) : t.Sole identity := by
  by_cases spares : call.Spares identity
  · exact h.sole_of_spares spares sole
  · cases call with
    | createCluster cloudId r =>
        obtain rfl : r.identity = identity := not_not.mp spares
        exact (h.claimed_of_create harmless).1.sole
    | promote r =>
        obtain rfl : r.identity = identity := by
          by_contra other
          exact spares ⟨harmless.1, other⟩
        exact (h.claimed_of_promote harmless).sole
    | _ => exact absurd trivial spares

end Store

end Inventory

/-! ## Searching for tracked records -/

namespace Registration

variable {identity id : String} {clusters : List ClusterRecord} {r : ClusterRecord}

theorem of_tracked? (present : tracked? identity clusters = some r) :
    r ∈ clusters ∧ r.isTrackedFor identity = true := by
  have tracked := List.find?_some present
  exact ⟨List.mem_of_find?_eq_some present, tracked⟩

theorem tracked?_eq_none :
    tracked? identity clusters = none ↔
      ∀ r ∈ clusters, ¬ (r.identity = identity ∧ r.install ≠ .unset) := by
  simp only [tracked?, List.find?_eq_none, ClusterRecord.isTrackedFor_iff]

theorem rival?_eq_none :
    rival? identity id clusters = none ↔
      ∀ r ∈ clusters, ¬ (r.idText ≠ id ∧ r.identity = identity ∧ r.install ≠ .unset) := by
  simp only [rival?, List.find?_eq_none, Bool.and_eq_true, decide_eq_true_eq,
    ClusterRecord.isTrackedFor_iff]

end Registration

end Enrollment
