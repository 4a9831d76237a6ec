import Enrollment.Proofs.Inventory.Progress

/-!
# Records of different identities

The clusters of a store fall apart into those that carry one identity and those that carry
another. A call that `StaysWithin` an identity creates, updates and promotes for that identity
alone, which the clusters that carry it are enough to tell. Where ids are distinct such a call
leaves all other clusters as they are, and in the order in which they are.
-/

namespace Enrollment.Inventory

open Registration

namespace Store

variable {s t : Store} {identity other id : String} {r : ClusterRecord}

/-- The clusters that carry the identity, in a store of their own. -/
def ofIdentity (identity : String) (s : Store) : Store where
  clusters := s.clusters.filter (·.identity = identity)

@[simp] theorem mem_ofIdentity :
    r ∈ (s.ofIdentity identity).clusters ↔ r ∈ s.clusters ∧ r.identity = identity := by
  simp [ofIdentity]

@[simp] theorem tracked?_ofIdentity :
    tracked? identity (s.ofIdentity identity).clusters = tracked? identity s.clusters := by
  have same : (fun r : ClusterRecord =>
      decide (decide (r.identity = identity) = true ∧ r.isTrackedFor identity = true)) =
        (·.isTrackedFor identity) := by
    funext r
    simpa using fun tracked => (ClusterRecord.isTrackedFor_iff.mp tracked).1
  rw [tracked?, tracked?, ofIdentity, List.find?_filter, same]

theorem exists_tracked_ofIdentity {P : ClusterRecord → Prop} :
    (∃ r ∈ (s.ofIdentity identity).clusters, r.isTrackedFor identity = true ∧ P r) ↔
      ∃ r ∈ s.clusters, r.isTrackedFor identity = true ∧ P r := by
  constructor
  · rintro ⟨r, member, tracked, holds⟩
    exact ⟨r, (mem_ofIdentity.mp member).1, tracked, holds⟩
  · rintro ⟨r, member, tracked, holds⟩
    have carried := (ClusterRecord.isTrackedFor_iff.mp tracked).1
    exact ⟨r, mem_ofIdentity.mpr ⟨member, carried⟩, tracked, holds⟩

@[simp] theorem holds_ofIdentity :
    (s.ofIdentity identity).Holds identity id ↔ s.Holds identity id :=
  exists_tracked_ofIdentity

end Store

/-- The call creates, updates and promotes for the identity alone: it creates a record when none
is tracked for the identity, and changes one that is. -/
def Call.StaysWithin (identity : String) (s : Store) : Call → Prop
  | createCluster _ r =>
    r.identity = identity ∧ r.install = .known .pending ∧ tracked? identity s.clusters = none
  | updateCluster _ r => s.Holds identity r.idText ∧ r.id = some r.idText
  | promote r => r.identity = identity ∧ s.Holds identity r.idText
  | createCloud _ | unmanage _ | deleteCluster _ _ => False
  | _ => True

theorem Call.staysWithin_ofIdentity {identity : String} {s : Store} {call : Call} :
    call.StaysWithin identity (s.ofIdentity identity) ↔ call.StaysWithin identity s := by
  cases call <;> simp [StaysWithin]

/-- The id of the cluster that a call changes. -/
def Call.target? : Call → Option String
  | updateCluster _ r => r.id
  | promote r => some r.idText
  | unmanage id | deleteCluster _ id => some id
  | _ => none

theorem Call.StaysWithin.holds_target {identity id : String} {s : Store} {call : Call}
    (within : call.StaysWithin identity s) (target : call.target? = some id) :
    s.Holds identity id := by
  cases call with
  | updateCluster cloudId r =>
      obtain rfl := Option.some.inj (within.2.symm.trans target)
      exact within.1
  | promote r =>
      cases target
      exact within.2
  | unmanage | deleteCluster => exact within.elim
  | _ => cases target

namespace Store

variable {s t : Store} {call : Call} {a : call.Answer} {identity other id : String}

/-- A change goes unnoticed when neither the record that is changed is looked at, nor what becomes
of it. -/
theorem filter_modifyFirst {f : ClusterRecord → ClusterRecord} {before after : List ClusterRecord}
    {p : ClusterRecord → Bool} (changed : modifyFirst id f before = some after)
    (unseen : ∀ r ∈ before, r.id = some id → ¬ p r = true ∧ ¬ p (f r) = true) :
    after.filter p = before.filter p := by
  obtain ⟨front, r, back, rfl, named, rfl⟩ := modifyFirst_eq_some changed
  obtain ⟨old, new⟩ := unseen r (List.mem_append_right front List.mem_cons_self) named
  rw [List.filter_append, List.filter_append, List.filter_cons_of_neg old,
    List.filter_cons_of_neg new]

/-- Where ids are distinct, the id of a record that is tracked for the identity means a record
that carries it. -/
theorem WellNamed.identity_of_holds (h : s.WellNamed) (held : s.Holds identity id)
    {r : ClusterRecord} (member : r ∈ s.clusters) (named : r.id = some id) :
    r.identity = identity := by
  obtain ⟨q, inside, tracked, named'⟩ := held
  obtain rfl := List.inj_on_of_nodup_map h.distinct member inside (named.trans named'.symm)
  exact (ClusterRecord.isTrackedFor_iff.mp tracked).1

/-- A call that stays within an identity leaves the records of all other identities alone. -/
theorem Effect.filter_eq (h : s.Effect call a t) (named : s.WellNamed)
    (within : call.StaysWithin identity s) {keep : String → Bool} (other : keep identity = false) :
    t.clusters.filter (keep ·.identity) = s.clusters.filter (keep ·.identity) := by
  have other : ¬ keep identity = true := by simp [other]
  cases h with
  | cloudRead | cloudsListed | clustersListed | clusterRead | managedRead => rfl
  | cloudCreated | clusterUnmanaged | clusterDeleted => exact within.elim
  | clusterCreated =>
      obtain ⟨rfl, -⟩ := within
      rw [List.filter_append, List.filter_cons_of_neg, List.filter_nil, List.append_nil]
      exact other
  | clusterUpdated same changed =>
      refine filter_modifyFirst changed fun r member named' => ?_
      rw [← ClusterRecord.idText_of_id same] at named'
      have carried := named.identity_of_holds within.1 member named'
      exact ⟨by rwa [carried], by rwa [updated, carried]⟩
  | clusterPromoted _ changed =>
      obtain ⟨self, held⟩ := within
      refine filter_modifyFirst changed fun r member named' => ?_
      have carried := named.identity_of_holds held member named'
      exact ⟨by rwa [carried], by rwa [identity_promoted self carried]⟩

theorem Effect.ofIdentity_eq (h : s.Effect call a t) (named : s.WellNamed)
    (within : call.StaysWithin identity s) (different : other ≠ identity) :
    t.ofIdentity other = s.ofIdentity other := by
  let keep (carried : String) : Bool := carried = other
  have same := h.filter_eq named within (show keep identity = false from
    decide_eq_false different.symm)
  rw [ofIdentity, ofIdentity, same]

theorem Effect.clouds_eq (h : s.Effect call a t) (within : call.StaysWithin identity s) :
    t.clouds = s.clouds := by
  cases h with
  | cloudCreated => exact within.elim
  | _ => rfl

/-- What is held for the identity stays so. -/
theorem Effect.holds (h : s.Effect call a t) (within : call.StaysWithin identity s)
    (held : s.Holds identity id) : t.Holds identity id := by
  have keeps : call.Keeps identity := by
    cases call with
    | promote r => exact within.1
    | unmanage | deleteCluster => exact within.elim
    | _ => trivial
  obtain ⟨r, member, tracked, named⟩ := held
  obtain ⟨q, inside, tracked, same⟩ := h.kept keeps member tracked
  exact ⟨q, inside, tracked, same.trans named⟩

/-- Such a call makes no identity ambiguous. -/
theorem Effect.sole_of_staysWithin (h : s.Effect call a t) (nonempty : identity ≠ "")
    (within : call.StaysWithin identity s) (sole : s.Sole other) : t.Sole other := by
  by_cases same : other = identity
  · subst same
    refine h.sole ?_ sole
    cases call with
    | createCluster cloudId r =>
        obtain ⟨rfl, -, absent⟩ := within
        exact fun q member => List.find?_eq_none.mp absent q member
    | promote r =>
        obtain ⟨rfl, q, member, tracked, named⟩ := within
        exact ⟨nonempty, fun _ => sole.claimed member tracked named⟩
    | _ => trivial
  · refine h.sole_of_spares ?_ sole
    cases call with
    | createCluster cloudId r => exact within.1.trans_ne (Ne.symm same)
    | promote r => exact ⟨within.1.trans_ne nonempty, within.1.trans_ne (Ne.symm same)⟩
    | _ => trivial

/-- Every record has an id behind a call when every record had one in front of it. -/
theorem Effect.identified (h : s.Effect call a t) (identified : ∀ r ∈ s.clusters, r.id ≠ none) :
    ∀ r ∈ t.clusters, r.id ≠ none := by
  intro r member
  cases h with
  | cloudRead | cloudsListed | cloudCreated | clustersListed | clusterRead | managedRead =>
      exact identified r member
  | clusterCreated =>
      rcases List.mem_append.mp member with old | new
      · exact identified r old
      · rw [List.mem_singleton.mp new]
        exact Option.some_ne_none _
  | clusterUpdated _ changed | clusterPromoted _ changed | clusterUnmanaged changed =>
      rcases mem_modifyFirst changed member with old | ⟨q, old, -, rfl⟩
      · exact identified r old
      · exact identified q old
  | clusterDeleted => exact identified r (List.mem_of_mem_filter member)

end Store

end Enrollment.Inventory
