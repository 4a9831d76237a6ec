import Enrollment.Proofs.Inventory.Progress
import Enrollment.Proofs.Inventory.Reaction
import Enrollment.Proofs.Registration.Path

/-!
# The course of a registration on a store

Every call that a registration makes advances its identity: what it has read just before
allows a creation, or shows that the record to be promoted is the only one that is tracked.
An invariant of stores that such calls keep therefore holds throughout a registration, at
every point between two calls, whichever calls fail and whether or not they have taken effect.
-/

namespace Enrollment.Registration

open Inventory

/-- What a step must find in the store in order to advance the identity. -/
def Step.Advances (identity : String) (s : Store) : Step → Prop
  | .call _ c _ => c.Advances identity s
  | _ => True

/-- A property that registrations for the identity keep, and that leaves no doubt about which
record is tracked for it. -/
structure Invariant (identity : String) (I : Store → Prop) : Prop where
  sole : identity ≠ "" → ∀ s, I s → s.Sole identity
  keeps : ∀ s step t, I s → step.Advances identity s → Reacts s step t → I t

section

variable {s t : Store} {step : Step} {steps : List Step} {scope : Scope}

/-! ## What has been read -/

theorem Reacts.clouds_listed {clouds : List CloudRecord}
    (h : Reacts s (.call scope .listClouds (.ok clouds)) t) : t = s ∧ clouds = s.clouds := by
  cases h with
  | answered effect =>
      cases effect
      exact ⟨rfl, rfl⟩

theorem Reacts.clusters_listed {clusters : List ClusterRecord}
    (h : Reacts s (.call scope .listClusters (.ok clusters)) t) :
    t = s ∧ clusters = s.clusters := by
  cases h with
  | answered effect =>
      cases effect
      exact ⟨rfl, rfl⟩

theorem Reacts.cluster_read {cloudId id : String} {r : ClusterRecord}
    (h : Reacts s (.call scope (.getCluster cloudId id) (.ok r)) t) :
    t = s ∧ s.cluster? id = some r ∧ r.id = some id := by
  cases h with
  | answered effect =>
      cases effect with
      | clusterRead found => exact ⟨rfl, found, (Store.mem_of_cluster? found).2⟩

/-- A record is the only one that is tracked when a listing shows no rival of its id. -/
theorem claimed_of_unrivalled {identity id : String} (nonempty : id ≠ "")
    (unrivalled : rival? identity id s.clusters = none) : s.Claimed identity id := by
  intro q member tracked
  have missed := List.find?_eq_none.mp unrivalled q member
  have same : q.idText = id := by
    by_contra other
    exact missed (by simp [other, tracked])
  subst same
  exact ClusterRecord.id_of_idText nonempty

/-- A record that is tracked is the only one where one is tracked at most. -/
theorem claimed_of_tracked {identity : String} {r : ClusterRecord} (sole : s.Sole identity)
    (present : tracked? identity s.clusters = some r) (named : r.idText ≠ "") :
    s.Claimed identity r.idText := by
  obtain ⟨member, tracked⟩ := of_tracked? present
  exact sole.claimed member tracked (ClusterRecord.id_of_idText named)

/-! ## Phase by phase -/

variable {I : Store → Prop} {cloudId identity name : String} {configured : Option String}

theorem Invariant.cons (inv : Invariant identity I) (start : I s)
    (advances : step.Advances identity s)
    (rest : ∀ t, Reacts s step t → I t → Throughout Reacts I t steps) :
    Throughout Reacts I s (step :: steps) := by
  rw [Throughout.cons_iff]
  exact ⟨start, fun t first => rest t first (inv.keeps s step t start advances first)⟩

theorem Invariant.single (inv : Invariant identity I) (start : I s)
    (advances : step.Advances identity s) : Throughout Reacts I s [step] :=
  inv.cons start advances fun _ _ => Throughout.nil_iff.mpr

theorem CloudPath.throughout {out : Except Failure String} (inv : Invariant identity I)
    (start : I s) (path : CloudPath scope configured steps out) :
    Throughout Reacts I s steps := by
  cases path with
  | missing | configured | unlisted | found => exact inv.single start trivial
  | uncreated _ absent | unnamed _ absent | created _ absent =>
      refine inv.cons start trivial ?_
      intro t first start
      obtain ⟨rfl, rfl⟩ := first.clouds_listed
      exact inv.single start ⟨rfl, absent⟩

theorem ClusterPath.throughout {out : Except Failure Resolution} (inv : Invariant identity I)
    (start : I s) (path : ClusterPath scope cloudId configured identity name steps out) :
    Throughout Reacts I s steps := by
  cases path with
  | anonymous => exact Throughout.nil_iff.mpr start
  | configured _ _ path =>
      cases path with
      | missing | unfit | registered => exact inv.single start trivial
      | unlisted | rivalled | adopted =>
          exact inv.cons start trivial fun t _ start => inv.single start trivial
  | byIdentity _ _ path =>
      cases path with
      | unlisted | unfit | registered | adopted => exact inv.single start trivial
      | uncreated absent | created absent =>
          refine inv.cons start trivial ?_
          intro t first start
          obtain ⟨rfl, rfl⟩ := first.clusters_listed
          exact inv.single start ⟨rfl, rfl, absent⟩

/-- When a record has been resolved that is to be promoted, no other one is tracked. -/
theorem ClusterPath.claimed {resolution : Resolution} (inv : Invariant identity I) (start : I s)
    (path : ClusterPath scope cloudId configured identity name steps (.ok resolution))
    (unregistered : resolution.isRegistered = false) (along : Along Reacts s steps t) :
    identity ≠ "" ∧
      (resolution.record.idText ≠ "" → t.Claimed identity resolution.record.idText) := by
  cases path with
  | configured self given path =>
      refine ⟨self, ?_⟩
      intro nonempty
      cases path with
      | registered => cases unregistered
      | adopted _ unrivalled =>
          simp only [along_cons_iff, along_nil_iff] at along
          obtain ⟨_, first, _, second, rfl⟩ := along
          obtain ⟨rfl, -, named⟩ := first.cluster_read
          obtain ⟨rfl, rfl⟩ := second.clusters_listed
          obtain rfl := ClusterRecord.idText_of_id named
          exact claimed_of_unrivalled nonempty unrivalled
  | byIdentity self _ path =>
      refine ⟨self, ?_⟩
      intro nonempty
      cases path with
      | registered => cases unregistered
      | adopted present =>
          simp only [along_cons_iff, along_nil_iff] at along
          obtain ⟨_, first, rfl⟩ := along
          obtain ⟨rfl, rfl⟩ := first.clusters_listed
          exact claimed_of_tracked (inv.sole self _ start) present nonempty
      | created absent =>
          simp only [along_cons_iff, along_nil_iff] at along
          obtain ⟨_, first, _, second, rfl⟩ := along
          obtain ⟨rfl, rfl⟩ := first.clusters_listed
          cases second with
          | answered effect =>
              exact (effect.claimed_of_create (List.find?_eq_none.mp absent)).1

theorem PromotionPath.throughout {settings : Settings} {version : ClusterVersion}
    {resolution : Resolution} {out : Except Failure String} (inv : Invariant identity I)
    (start : I s) (self : identity ≠ "")
    (claimed : resolution.record.idText ≠ "" → s.Claimed identity resolution.record.idText)
    (path : PromotionPath scope settings cloudId identity version resolution steps out) :
    Throughout Reacts I s steps := by
  cases path with
  | unrefreshed => exact inv.single start trivial
  | refreshed =>
      refine inv.cons start trivial ?_
      intro t first start
      refine inv.single start ⟨self, rfl, fun nonempty => ?_⟩
      cases first with
      | answered effect => exact effect.claimed trivial (claimed nonempty)
  | fresh => exact inv.single start ⟨self, rfl, claimed⟩

/-- What registrations for an identity keep holds throughout one of them. -/
theorem RegistrationPath.throughout {cluster : LocalCluster} {settings : Settings}
    {out : Except Failure String} (inv : Invariant identity I) (start : I s)
    (theirs : ∀ self, cluster.identity = .ok self → self = identity)
    (path : RegistrationPath cluster settings steps out) : Throughout Reacts I s steps := by
  cases path with
  | unacting | unidentified => exact Throughout.nil_iff.mpr start
  | homeless _ _ cloud => exact cloud.throughout inv start
  | unresolved _ self cloud record | registered _ self cloud record
  | unversioned _ self cloud record =>
      obtain rfl := theirs _ self
      have first := cloud.throughout inv start
      exact first.append fun t along => record.throughout inv (first.last along)
  | promoted _ self cloud record unregistered _ promotion =>
      obtain rfl := theirs _ self
      have first := cloud.throughout inv start
      apply first.append
      intro t along
      have start := first.last along
      have second := record.throughout inv start
      apply second.append
      intro u along
      obtain ⟨nonempty, claimed⟩ := record.claimed inv start unregistered along
      exact promotion.throughout inv (second.last along) nonempty claimed

end

end Enrollment.Registration
