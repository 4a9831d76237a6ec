import Enrollment.Proofs.Registration.Course

/-!
# What a registration comes to

On a store that is resumable, a registration that succeeds has left a record with the id that
it yields, tracked for its identity; and a registration that gets an answer to every call does
succeed, and leaves this record installed and managed. Both are said of registrations for
which nothing is configured.
-/

namespace Enrollment.Registration

open Inventory

section

variable {s t start : Store} {step : Step} {steps : List Step} {scope : Scope}
variable {identity cloudId name : String}

/-- The store can be resumed, and has gone on from `start`. -/
def Resumes (identity : String) (start s : Store) : Prop :=
  s.Resumable identity ∧ start.Onward identity s

theorem invariant_resumes (identity : String) (start : Store) :
    Invariant identity (Resumes identity start) := by
  refine ⟨fun _ s resumes => resumes.1.sole, ?_⟩
  intro s step t resumes advances h
  cases h with
  | answered effect | unacknowledged effect =>
      exact ⟨effect.resumable advances resumes.1, resumes.2.trans (effect.onward advances)⟩
  | failed | now | pause => exact resumes

/-! ## The id that is yielded -/

/-- The record that is resolved is held, by the id that it is known under. -/
theorem IdentityPath.holds {resolution : Resolution} (resumable : s.Resumable identity)
    (path : IdentityPath scope cloudId identity name steps (.ok resolution))
    (along : Along Reacts s steps t) : t.Holds identity resolution.record.idText := by
  cases path with
  | registered present | adopted present =>
      simp only [along_cons_iff, along_nil_iff] at along
      obtain ⟨_, first, rfl⟩ := along
      obtain ⟨rfl, rfl⟩ := first.clusters_listed
      exact (resumable.holds_tracked present).1
  | created absent =>
      simp only [along_cons_iff, along_nil_iff] at along
      obtain ⟨_, first, _, second, rfl⟩ := along
      obtain ⟨rfl, rfl⟩ := first.clusters_listed
      cases second with
      | answered effect =>
          cases effect with
          | clusterCreated =>
              refine ⟨_, List.mem_append_right _ List.mem_cons_self, ?_, rfl⟩
              exact Store.isTrackedFor_created rfl rfl

theorem eq_of_ok_eq_map {α : Type} {x : Except Failure α} {id other : String}
    (result : .ok id = x.map fun _ => other) : id = other := by
  cases x with
  | error e => cases result
  | ok a => exact Except.ok.inj result

theorem PromotionPath.holds {settings : Settings} {version : ClusterVersion} {id : String}
    {resolution : Resolution} (resumable : s.Resumable identity) (self : identity ≠ "")
    (held : s.Holds identity resolution.record.idText)
    (claimed : resolution.record.idText ≠ "" → s.Claimed identity resolution.record.idText)
    (path : PromotionPath scope settings cloudId identity version resolution steps (.ok id))
    (along : Along Reacts s steps t) : id = resolution.record.idText ∧ t.Holds identity id := by
  have onward := (path.throughout (invariant_resumes identity s) ⟨resumable, .refl identity s⟩
    self claimed).last along
  have same : id = resolution.record.idText := by
    cases path with
    | refreshed result | fresh result => exact eq_of_ok_eq_map result
  exact ⟨same, same ▸ onward.2.holds held⟩

variable {cluster : LocalCluster} {settings : Settings}

/-- Without a configured id a record is resolved by the identity. -/
theorem ClusterPath.of_free {configured : Option String} {resolution : Resolution}
    (free : configuredId? configured = none)
    (path : ClusterPath scope cloudId configured identity name steps (.ok resolution)) :
    identity ≠ "" ∧ IdentityPath scope cloudId identity name steps (.ok resolution) := by
  cases path with
  | configured _ given => exact absurd (given.symm.trans free) (by simp)
  | byIdentity self _ path => exact ⟨self, path⟩

/-- A registration that yields an id has left the record with this id. -/
theorem RegistrationPath.holds {id : String} (resumable : s.Resumable identity)
    (theirs : ∀ self, cluster.identity = .ok self → self = identity)
    (free : configuredId? settings.clusterId = none)
    (path : RegistrationPath cluster settings steps (.ok id)) (along : Along Reacts s steps t) :
    t.Holds identity id := by
  have inv := invariant_resumes identity s
  have start : Resumes identity s s := ⟨resumable, .refl identity s⟩
  cases path with
  | registered _ self cloud record =>
      obtain rfl := theirs _ self
      obtain ⟨u, first, second⟩ := along_append_iff.mp along
      have resumed := (cloud.throughout inv start).last first
      exact (record.of_free free).2.holds resumed.1 second
  | promoted _ self cloud record unregistered _ promotion =>
      obtain rfl := theirs _ self
      obtain ⟨u, first, rest⟩ := along_append_iff.mp along
      obtain ⟨v, second, third⟩ := along_append_iff.mp rest
      have resumed := (cloud.throughout inv start).last first
      have held := (record.of_free free).2.holds resumed.1 second
      obtain ⟨nonempty, claimed⟩ := record.claimed inv resumed unregistered second
      have resumable := ((record.throughout inv resumed).last second).1
      exact (promotion.holds resumable nonempty held claimed third).2

/-! ## Registrations that are answered -/

theorem Answers.along_reacts (along : Along Answers s steps t) : Along Reacts s steps t :=
  along.map id fun _ _ _ => Answers.reacts

theorem CloudPath.ok_of_answers {configured : Option String} {out : Except Failure String}
    (free : configuredId? configured = none) (path : CloudPath scope configured steps out)
    (along : Along Answers s steps t) : ∃ id, out = .ok id := by
  cases path with
  | missing given | configured given => exact absurd (given.symm.trans free) (by simp)
  | found | created => exact ⟨_, rfl⟩
  | unlisted =>
      obtain ⟨_, first, -⟩ := along_cons_iff.mp along
      cases first with
      | refused why => cases why
  | uncreated =>
      simp only [along_cons_iff, along_nil_iff] at along
      obtain ⟨u, -, _, second, rfl⟩ := along
      cases second with
      | refused why => exact absurd why (by simp [Store.answer, CloudRecord.privateCloud])
  | unnamed _ _ unnamed =>
      simp only [along_cons_iff, along_nil_iff] at along
      obtain ⟨u, -, _, second, rfl⟩ := along
      cases second with
      | answered effect =>
          cases effect with
          | cloudCreated =>
              have named : u.nextId "cloud" ≠ "" := Store.idText_ne_empty "cloud" (u.issued + 1)
              exact absurd unnamed (by simp [configuredId?, named])

theorem IdentityPath.ok_of_answers {out : Except Failure Resolution}
    (resumable : s.Resumable identity) (path : IdentityPath scope cloudId identity name steps out)
    (along : Along Answers s steps t) : ∃ resolution, out = .ok resolution := by
  cases path with
  | registered | adopted | created => exact ⟨_, rfl⟩
  | unlisted =>
      obtain ⟨_, first, -⟩ := along_cons_iff.mp along
      cases first with
      | refused why => cases why
  | unfit present standing =>
      obtain ⟨_, first, -⟩ := along_cons_iff.mp along
      obtain ⟨rfl, rfl⟩ := first.reacts.clusters_listed
      rcases (resumable.holds_tracked present).2 with fit | fit
      · cases standing.symm.trans fit
      · cases standing.symm.trans fit
  | uncreated =>
      simp only [along_cons_iff, along_nil_iff] at along
      obtain ⟨u, -, _, second, rfl⟩ := along
      cases second with
      | refused why => exact absurd why (by simp [Store.answer, pendingRecord])

/-- The record with this id is tracked for the identity, installed and managed. -/
def Settled (identity id : String) (s : Store) : Prop :=
  ∃ r ∈ s.clusters, r.isTrackedFor identity = true ∧ r.id = some id ∧
    r.install = .known .installed ∧ r.managedState = .known .managed

theorem Settled.holds {id : String} (settled : Settled identity id s) : s.Holds identity id := by
  obtain ⟨r, member, tracked, named, -⟩ := settled
  exact ⟨r, member, tracked, named⟩

/-- On a store that is resumable, the record that is settled is the only one tracked. -/
theorem Settled.filter {id : String} (settled : Settled identity id s)
    (resumable : s.Resumable identity) :
    ∃ r, s.clusters.filter (·.isTrackedFor identity) = [r] ∧ r.id = some id ∧
      r.install = .known .installed ∧ r.managedState = .known .managed := by
  obtain ⟨r, member, tracked, state⟩ := settled
  have member := List.mem_filter.mpr ⟨member, tracked⟩
  have short := resumable.named.length_tracked.mpr resumable.sole
  have one := List.length_pos_of_mem member
  obtain ⟨q, alone⟩ := List.length_eq_one_iff.mp (Nat.le_antisymm short one)
  rw [alone] at member
  obtain rfl := List.mem_singleton.mp member
  exact ⟨r, alone, state⟩

/-- A record that is held can be brought up to date. -/
theorem Answers.updated {r : ClusterRecord} {id : String} {answer : Except Failure Unit}
    (h : Answers s (.call scope (.updateCluster cloudId r) answer) t)
    (held : s.Holds identity id) (named : r.id = some id) : answer = .ok () := by
  obtain ⟨c, member, -, same⟩ := held
  obtain ⟨after, changed⟩ := Store.exists_modifyFirst (f := Store.updated r) member same
  cases h with
  | answered => rfl
  | refused why => exact absurd why (by simp [Store.answer, named, changed])

/-- A record that has been promoted is settled. -/
theorem settled_of_promote {r : ClusterRecord} (effect : s.Effect (.promote r) () t)
    (nonempty : r.identity ≠ "") : Settled r.identity r.idText t := by
  cases effect with
  | clusterPromoted _ changed =>
      obtain ⟨front, c, back, -, same, rfl⟩ := Store.modifyFirst_eq_some changed
      refine ⟨_, List.mem_append_right _ List.mem_cons_self, ?_, same, rfl, rfl⟩
      refine ClusterRecord.isTrackedFor_iff.mpr ⟨?_, by simp [Store.promoted]⟩
      simp [Store.promoted, nonempty]

/-- A record that is held can be promoted, and is settled then. -/
theorem Answers.promoted {r : ClusterRecord} {answer : Except Failure Unit}
    (h : Answers s (.call scope (.promote r) answer) t) (held : s.Holds r.identity r.idText)
    (named : r.idText ≠ "") (nonempty : r.identity ≠ "") :
    answer = .ok () ∧ Settled r.identity r.idText t := by
  obtain ⟨c, member, -, same⟩ := held
  obtain ⟨after, changed⟩ := Store.exists_modifyFirst (f := Store.promoted r) member same
  cases h with
  | refused why => exact absurd why (by simp [Store.answer, named, changed])
  | answered effect => exact ⟨rfl, settled_of_promote effect nonempty⟩

/-- A record that is installed and managed already is settled. -/
theorem settled_of_registered {r : ClusterRecord} (named : r.id = some r.idText)
    (present : tracked? identity s.clusters = some r)
    (standing : r.standing identity = .registered) : Settled identity r.idText s := by
  obtain ⟨member, tracked⟩ := of_tracked? present
  obtain ⟨-, -, installed, managed⟩ := ClusterRecord.standing_eq_registered.mp standing
  exact ⟨r, member, tracked, named, installed, managed⟩

theorem IdentityPath.settled {r : ClusterRecord} (resumable : s.Resumable identity)
    (path : IdentityPath scope cloudId identity name steps (.ok (.registered r)))
    (along : Along Answers s steps t) : Settled identity r.idText t := by
  cases path with
  | registered present standing =>
      simp only [along_cons_iff, along_nil_iff] at along
      obtain ⟨_, first, rfl⟩ := along
      obtain ⟨rfl, rfl⟩ := first.reacts.clusters_listed
      obtain ⟨member, tracked⟩ := of_tracked? present
      have named := ClusterRecord.id_of_idText (resumable.fit r member tracked).1
      exact settled_of_registered named present standing

theorem PromotionPath.settled {version : ClusterVersion} {resolution : Resolution}
    {out : Except Failure String} (named : resolution.record.idText ≠ "") (self : identity ≠ "")
    (held : s.Holds identity resolution.record.idText)
    (path : PromotionPath scope settings cloudId identity version resolution steps out)
    (along : Along Answers s steps t) :
    out = .ok resolution.record.idText ∧ Settled identity resolution.record.idText t := by
  cases path with
  | unrefreshed =>
      obtain ⟨_, first, -⟩ := along_cons_iff.mp along
      cases first.updated held rfl
  | @refreshed r _ _ result =>
      simp only [along_cons_iff, along_nil_iff] at along
      obtain ⟨u, first, _, second, rfl⟩ := along
      have held : u.Holds identity r.idText := by
        cases first with
        | answered effect => exact (effect.onward trivial).holds held
      obtain ⟨rfl, settled⟩ := second.promoted held named self
      exact ⟨result, settled⟩
  | fresh result =>
      simp only [along_cons_iff, along_nil_iff] at along
      obtain ⟨_, first, rfl⟩ := along
      obtain ⟨rfl, settled⟩ := first.promoted held named self
      exact ⟨result, settled⟩

/-- A registration that is told what it needs to know, and that gets an answer to every call,
succeeds and leaves its record settled. -/
theorem RegistrationPath.settled {version : ClusterVersion} {out : Except Failure String}
    (resumable : s.Resumable identity) (nonempty : identity ≠ "")
    (acting : knownScope cluster settings = .ok scope) (self : cluster.identity = .ok identity)
    (known : cluster.version = .ok version) (homeless : configuredId? settings.cloudId = none)
    (free : configuredId? settings.clusterId = none)
    (path : RegistrationPath cluster settings steps out) (along : Along Answers s steps t) :
    ∃ id, out = .ok id ∧ Settled identity id t := by
  have inv := invariant_resumes identity s
  have start : Resumes identity s s := ⟨resumable, .refl identity s⟩
  cases path with
  | unacting unknown => cases acting.symm.trans unknown
  | unidentified _ unknown => cases self.symm.trans unknown
  | homeless _ _ cloud =>
      obtain ⟨_, result⟩ := cloud.ok_of_answers homeless along
      cases result
  | unresolved _ same cloud record =>
      cases self.symm.trans same
      obtain ⟨u, first, second⟩ := along_append_iff.mp along
      have resumed := (cloud.throughout inv start).last (Answers.along_reacts first)
      cases record with
      | anonymous empty => exact absurd empty nonempty
      | configured _ given => exact absurd (given.symm.trans free) (by simp)
      | byIdentity _ _ path =>
          obtain ⟨_, result⟩ := path.ok_of_answers resumed.1 second
          cases result
  | registered _ same cloud record =>
      cases self.symm.trans same
      obtain ⟨u, first, second⟩ := along_append_iff.mp along
      have resumed := (cloud.throughout inv start).last (Answers.along_reacts first)
      exact ⟨_, rfl, (record.of_free free).2.settled resumed.1 second⟩
  | unversioned _ _ _ _ _ unknown => cases known.symm.trans unknown
  | promoted _ same cloud record _ _ promotion =>
      cases self.symm.trans same
      obtain ⟨u, first, rest⟩ := along_append_iff.mp along
      obtain ⟨v, second, third⟩ := along_append_iff.mp rest
      have resumed := (cloud.throughout inv start).last (Answers.along_reacts first)
      have second := Answers.along_reacts second
      have held := (record.of_free free).2.holds resumed.1 second
      have named := ((record.throughout inv resumed).last second).1.ne_empty held
      exact ⟨_, promotion.settled named nonempty held third⟩

end

end Enrollment.Registration
