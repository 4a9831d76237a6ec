import Enrollment.Proofs.Registration.Course

/-!
# Registering again

A registration that has succeeded leaves nothing to do for the next one: the cloud and the
record that are searched for are there, and the record is registered. Neither distinct ids nor
a single tracked record are needed for that. The writes of a registration go to the first
record with the id that has been resolved, and no record in front of that one is searched for,
so that the next search comes to the record that has been promoted.
-/

namespace Enrollment.Registration

open Inventory

/-- Whether a registration searches for the record, by the configured id or by the identity. -/
def sought (configured : Option String) (identity : String) (r : ClusterRecord) : Bool :=
  match configuredId? configured with
  | some id => r.id = some id
  | none => r.isTrackedFor identity

/-- The cloud that a registration resolves is there. -/
def Housed (configured : Option String) (s : Store) : Prop :=
  match configuredId? configured with
  | some id => (s.cloud? id).isSome = true
  | none => (privateCloud? s.clouds).isSome = true

/-- The record that a registration comes to has this id, and is registered. -/
def Enrolled (configured : Option String) (identity id : String) (s : Store) : Prop :=
  ∃ r, s.clusters.find? (sought configured identity) = some r ∧ r.idText = id ∧
    r.standing identity = .registered

section

variable {s t : Store} {steps : List Step} {scope : Scope} {configured : Option String}
variable {identity id cloudId name : String}

theorem sought_of_given (given : configuredId? configured = some id) :
    sought configured identity = fun r : ClusterRecord => decide (r.id = some id) := by
  funext r
  rw [sought, given]

theorem sought_of_free (free : configuredId? configured = none) :
    sought configured identity = (·.isTrackedFor identity) := by
  funext r
  rw [sought, free]

/-! ## What a registration leaves -/

theorem Housed.mono (h : Housed configured s) (grown : s.clouds <+: t.clouds) :
    Housed configured t := by
  obtain ⟨more, grown⟩ := grown
  unfold Housed at h ⊢
  split
  · next id given =>
    rw [given] at h
    rw [Store.cloud?, ← grown, List.find?_append, Option.isSome_or]
    exact Bool.or_eq_true_iff.mpr (.inl h)
  · next free =>
    rw [free] at h
    rw [privateCloud?, ← grown, List.find?_append, Option.isSome_or]
    exact Bool.or_eq_true_iff.mpr (.inl h)

/-- No step takes the cloud away. -/
theorem Housed.along (h : Housed configured s) (along : Along Answers s steps t) :
    Housed configured t := by
  refine Throughout.last (Throughout.of_keeps (fun u step v _ housed first => ?_) h) along
  cases first with
  | answered effect => exact housed.mono effect.clouds_prefix
  | refused | now | pause => exact housed

theorem CloudPath.housed (path : CloudPath scope configured steps (.ok id))
    (along : Along Answers s steps t) : Housed configured t := by
  unfold Housed
  cases path with
  | configured given =>
      have first := along_singleton_iff.mp along
      rw [given]
      cases first with
      | answered effect =>
          cases effect with
          | cloudRead found => exact Option.isSome_iff_exists.mpr ⟨_, found⟩
  | found free present =>
      have first := along_singleton_iff.mp along
      obtain ⟨rfl, rfl⟩ := first.reacts.clouds_listed
      rw [free]
      exact Option.isSome_iff_exists.mpr ⟨_, present⟩
  | created free =>
      simp only [along_cons_iff, along_nil_iff] at along
      obtain ⟨u, -, _, second, rfl⟩ := along
      rw [free]
      cases second with
      | answered effect =>
          cases effect with
          | cloudCreated =>
              refine List.find?_isSome.mpr ⟨_, List.mem_append_right _ List.mem_cons_self, ?_⟩
              exact Bool.and_eq_true_iff.mpr ⟨rfl, Store.hasId_of_drawn rfl⟩

/-- The search, repeated, comes to the record that has been resolved. -/
theorem ClusterPath.found {resolution : Resolution}
    (path : ClusterPath scope cloudId configured identity name steps (.ok resolution))
    (along : Along Answers s steps t) :
    identity ≠ "" ∧
      t.clusters.find? (sought configured identity) = some resolution.record := by
  cases path with
  | configured self given path =>
      refine ⟨self, ?_⟩
      rw [sought_of_given given]
      cases path with
      | registered =>
          have first := along_singleton_iff.mp along
          obtain ⟨rfl, found, -⟩ := first.reacts.cluster_read
          exact found
      | adopted =>
          simp only [along_cons_iff, along_nil_iff] at along
          obtain ⟨_, first, _, second, rfl⟩ := along
          obtain ⟨rfl, found, -⟩ := first.reacts.cluster_read
          obtain ⟨rfl, -⟩ := second.reacts.clusters_listed
          exact found
  | byIdentity self free path =>
      refine ⟨self, ?_⟩
      rw [sought_of_free free]
      cases path with
      | registered present | adopted present =>
          have first := along_singleton_iff.mp along
          obtain ⟨rfl, rfl⟩ := first.reacts.clusters_listed
          exact present
      | created absent =>
          simp only [along_cons_iff, along_nil_iff] at along
          obtain ⟨u, first, _, second, rfl⟩ := along
          obtain ⟨rfl, rfl⟩ := first.reacts.clusters_listed
          cases second with
          | answered effect =>
              cases effect with
              | clusterCreated =>
                  have none : u.clusters.find? (·.isTrackedFor identity) = none := absent
                  rw [List.find?_append, none, Option.none_or]
                  exact List.find?_cons_of_pos (Store.isTrackedFor_created rfl rfl)

theorem sought_updated (r c : ClusterRecord) :
    sought configured identity (Store.updated r c) = sought configured identity c := by
  unfold sought
  split <;> rfl

/-- A record that is promoted is searched for when it has the id of one that is. -/
theorem sought_promoted {sent r c : ClusterRecord} (self : sent.identity = identity)
    (nonempty : identity ≠ "") (hit : sought configured identity r = true) (same : c.id = r.id) :
    sought configured identity (Store.promoted sent c) = true := by
  unfold sought at hit ⊢
  split
  · next id given =>
    rw [given] at hit
    exact decide_eq_true (same.trans (of_decide_eq_true hit))
  · subst self
    refine ClusterRecord.isTrackedFor_iff.mpr ⟨?_, by simp [Store.promoted]⟩
    simp [Store.promoted, nonempty]

/-- A promotion of the record that is searched for enrols it. -/
theorem Answers.enrolled {sent r : ClusterRecord}
    (h : Answers s (.call scope (.promote sent) (.ok ())) t) (self : sent.identity = identity)
    (nonempty : identity ≠ "")
    (found : s.clusters.find? (sought configured identity) = some r)
    (same : r.idText = sent.idText) : Enrolled configured identity sent.idText t := by
  cases h with
  | answered effect =>
      cases effect with
      | clusterPromoted named changed =>
          have named' : r.id = some sent.idText := by
            rw [← same] at named ⊢
            exact ClusterRecord.id_of_idText named
          have hit := List.find?_some found
          obtain ⟨c, here, reached⟩ := Store.find?_modifyFirst_of_hits changed
            (fun c here => sought_promoted self nonempty hit (here.trans named'.symm)) found named'
          subst self
          exact ⟨_, reached, ClusterRecord.idText_of_id here, Store.standing_promoted nonempty⟩

theorem PromotionPath.enrolled {settings : Settings} {version : ClusterVersion}
    {resolution : Resolution} (nonempty : identity ≠ "")
    (found : s.clusters.find? (sought configured identity) = some resolution.record)
    (path : PromotionPath scope settings cloudId identity version resolution steps (.ok id))
    (along : Along Answers s steps t) : Enrolled configured identity id t := by
  cases path with
  | @refreshed r answer _ result =>
      simp only [along_cons_iff, along_nil_iff] at along
      obtain ⟨u, first, _, second, rfl⟩ := along
      cases answer with
      | error e => cases result
      | ok a =>
          cases result
          cases first with
          | answered effect =>
              cases effect with
              | clusterUpdated named changed =>
                  obtain ⟨q, reached, same⟩ := Store.find?_modifyFirst_of_keeps changed
                    (fun c => ⟨sought_updated _ c, rfl⟩) found
                  have same : q.idText = r.idText := congrArg (·.getD "") same
                  exact second.enrolled rfl nonempty reached same
  | @fresh r answer _ result =>
      have first := along_singleton_iff.mp along
      cases answer with
      | error e => cases result
      | ok a =>
          cases result
          exact first.enrolled rfl nonempty found rfl

variable {cluster : LocalCluster} {settings : Settings}

/-- A registration that has yielded an id leaves the record with this id enrolled. -/
theorem RegistrationPath.enrolled (path : RegistrationPath cluster settings steps (.ok id))
    (along : Along Answers s steps t) :
    ∃ scope identity, knownScope cluster settings = .ok scope ∧ cluster.identity = .ok identity ∧
      identity ≠ "" ∧ Housed settings.cloudId t ∧ Enrolled settings.clusterId identity id t := by
  cases path with
  | @registered scope identity _ _ _ r acting self cloud record =>
      obtain ⟨u, first, second⟩ := along_append_iff.mp along
      obtain ⟨nonempty, found⟩ := record.found second
      have housed := (cloud.housed first).along second
      refine ⟨scope, identity, acting, self, nonempty, housed, r, found, rfl, ?_⟩
      cases record with
      | configured _ _ path =>
          cases path with
          | registered standing => exact standing
      | byIdentity _ _ path =>
          cases path with
          | registered _ standing => exact standing
  | @promoted scope identity _ _ _ _ _ _ _ acting self cloud record _ _ promotion =>
      obtain ⟨u, first, rest⟩ := along_append_iff.mp along
      obtain ⟨v, second, third⟩ := along_append_iff.mp rest
      obtain ⟨nonempty, found⟩ := record.found second
      have housed := ((cloud.housed first).along second).along third
      exact ⟨scope, identity, acting, self, nonempty, housed,
        promotion.enrolled nonempty found third⟩

/-! ## What is left to do -/

/-- A cloud that is there is resolved, and none is created. -/
theorem CloudPath.of_housed {out : Except Failure String} (housed : Housed configured s)
    (path : CloudPath scope configured steps out) (along : Along Answers s steps t) :
    t = s ∧ ∃ id, out = .ok id := by
  unfold Housed at housed
  cases path with
  | missing given =>
      have first := along_singleton_iff.mp along
      rw [given] at housed
      obtain ⟨cloud, found⟩ := Option.isSome_iff_exists.mp housed
      cases first with
      | refused why => exact absurd why (by simp [Store.answer, found])
  | configured given =>
      have first := along_singleton_iff.mp along
      cases first with
      | answered effect =>
          cases effect
          exact ⟨rfl, _, rfl⟩
  | unlisted =>
      obtain ⟨_, first, -⟩ := along_cons_iff.mp along
      cases first with
      | refused why => cases why
  | found =>
      have first := along_singleton_iff.mp along
      exact ⟨first.reacts.clouds_listed.1, _, rfl⟩
  | uncreated free absent | unnamed free absent | created free absent =>
      obtain ⟨_, first, -⟩ := along_cons_iff.mp along
      obtain ⟨rfl, rfl⟩ := first.reacts.clouds_listed
      rw [free, absent] at housed
      cases housed

/-- A record that is enrolled is resolved as a registered one. -/
theorem ClusterPath.of_enrolled {out : Except Failure Resolution} (nonempty : identity ≠ "")
    (enrolled : Enrolled configured identity id s)
    (path : ClusterPath scope cloudId configured identity name steps out)
    (along : Along Answers s steps t) :
    t = s ∧ ∃ r, out = .ok (.registered r) ∧ r.idText = id := by
  obtain ⟨r, found, named, standing⟩ := enrolled
  cases path with
  | anonymous empty => exact absurd empty nonempty
  | @configured clusterId _ _ _ given path =>
      rw [sought_of_given given] at found
      -- The record that is read is the one that is enrolled, whatever comes of it.
      have read {q : ClusterRecord} {u : Store}
          (first : Answers s (.call scope (.getCluster cloudId clusterId) (.ok q)) u) :
          u = s ∧ q = r := by
        obtain ⟨same, present, -⟩ := first.reacts.cluster_read
        exact ⟨same, Option.some.inj (present.symm.trans found)⟩
      cases path with
      | missing =>
          obtain ⟨_, first, -⟩ := along_cons_iff.mp along
          have present : s.cluster? clusterId = some r := found
          cases first with
          | refused why => exact absurd why (by simp [Store.answer, present])
      | registered =>
          have first := along_singleton_iff.mp along
          obtain ⟨rfl, rfl⟩ := read first
          exact ⟨rfl, _, rfl, named⟩
      | unfit other | unlisted other | rivalled other | adopted other =>
          obtain ⟨_, first, -⟩ := along_cons_iff.mp along
          obtain ⟨-, rfl⟩ := read first
          cases standing.symm.trans other
  | byIdentity _ free path =>
      rw [sought_of_free free] at found
      have listed {clusters : List ClusterRecord} {u : Store}
          (first : Answers s (.call scope .listClusters (.ok clusters)) u) :
          u = s ∧ tracked? identity clusters = some r := by
        obtain ⟨same, rfl⟩ := first.reacts.clusters_listed
        exact ⟨same, found⟩
      cases path with
      | unlisted =>
          obtain ⟨_, first, -⟩ := along_cons_iff.mp along
          cases first with
          | refused why => cases why
      | registered present =>
          have first := along_singleton_iff.mp along
          obtain ⟨same, reached⟩ := listed first
          cases present.symm.trans reached
          exact ⟨same, _, rfl, named⟩
      | unfit present other | adopted present other =>
          obtain ⟨_, first, -⟩ := along_cons_iff.mp along
          cases present.symm.trans (listed first).2
          cases standing.symm.trans other
      | uncreated absent | created absent =>
          obtain ⟨_, first, -⟩ := along_cons_iff.mp along
          cases absent.symm.trans (listed first).2

/-- A registration of what is enrolled already yields its id, and leaves everything as it is. -/
theorem RegistrationPath.of_enrolled {out : Except Failure String}
    (acting : knownScope cluster settings = .ok scope) (self : cluster.identity = .ok identity)
    (nonempty : identity ≠ "") (housed : Housed settings.cloudId s)
    (enrolled : Enrolled settings.clusterId identity id s)
    (path : RegistrationPath cluster settings steps out) (along : Along Answers s steps t) :
    out = .ok id ∧ t = s := by
  cases path with
  | unacting unknown => cases acting.symm.trans unknown
  | unidentified _ unknown => cases self.symm.trans unknown
  | homeless _ _ cloud =>
      obtain ⟨-, _, result⟩ := cloud.of_housed housed along
      cases result
  | unresolved _ same cloud record =>
      cases self.symm.trans same
      obtain ⟨u, first, second⟩ := along_append_iff.mp along
      obtain ⟨rfl, -⟩ := cloud.of_housed housed first
      obtain ⟨-, _, result, -⟩ := record.of_enrolled nonempty enrolled second
      cases result
  | registered _ same cloud record =>
      cases self.symm.trans same
      obtain ⟨u, first, second⟩ := along_append_iff.mp along
      obtain ⟨rfl, -⟩ := cloud.of_housed housed first
      obtain ⟨rfl, r, result, named⟩ := record.of_enrolled nonempty enrolled second
      cases result
      exact ⟨congrArg Except.ok named, rfl⟩
  | unversioned _ same cloud record unregistered =>
      cases self.symm.trans same
      obtain ⟨u, first, second⟩ := along_append_iff.mp along
      obtain ⟨rfl, -⟩ := cloud.of_housed housed first
      obtain ⟨-, r, result, -⟩ := record.of_enrolled nonempty enrolled second
      cases result
      cases unregistered
  | promoted _ same cloud record unregistered =>
      cases self.symm.trans same
      obtain ⟨u, first, rest⟩ := along_append_iff.mp along
      obtain ⟨v, second, -⟩ := along_append_iff.mp rest
      obtain ⟨rfl, -⟩ := cloud.of_housed housed first
      obtain ⟨-, r, result, -⟩ := record.of_enrolled nonempty enrolled second
      cases result
      cases unregistered

/-- A registration that succeeds has had an answer to its first call. -/
theorem RegistrationPath.begins (path : RegistrationPath cluster settings steps (.ok id)) :
    ∃ scope call, ∃ a : Call.Answer call, ∃ rest, steps = .call scope call (.ok a) :: rest := by
  cases path with
  | registered _ _ cloud | promoted _ _ cloud =>
      cases cloud with
      | configured | found | created => exact ⟨_, _, _, _, rfl⟩

end

/-- A registration in memory that has succeeded has found the store in reach. -/
theorem reachable_of_registered {pacing : Pacing} {cluster : LocalCluster} {s : Settings}
    {start finish : Store × Timeline} {steps : List Step} {id : String}
    (path : RegistrationPath cluster s steps (.ok id))
    (along : Along (inMemory pacing).Moves start steps finish) : start.1.unavailable = false := by
  obtain ⟨scope, call, a, rest, rfl⟩ := path.begins
  obtain ⟨_, first, -⟩ := along_cons_iff.mp along
  by_contra out
  generalize answered : Step.call scope call (.ok a) = step at first
  cases first with
  | call =>
      obtain ⟨rfl, rfl, same⟩ := Step.call.inj answered
      have refused := Store.perform_of_unavailable call start.1 (by simpa using out)
      have answer : (inMemory pacing).call scope call start =
        ((Store.perform call start.1).1, (Store.perform call start.1).2, start.2) := rfl
      rw [answer, refused] at same
      cases eq_of_heq same
  | now | pause => cases answered

/-- Registering is idempotent, on any store. When a registration has yielded an id, the same
cluster registers again with the same settings and gets the same id. No write is accepted for
that, nothing that the store holds is changed, and the version of the cluster is not asked for:
it may be another one by then, or no longer be known. -/
theorem register_again_changes_nothing (pacing : Pacing) (cluster again : LocalCluster)
    (s : Settings) (store : Store) (timeline : Timeline) (id : String)
    (token : again.apiToken s.tokenRef = cluster.apiToken s.tokenRef)
    (self : again.identity = cluster.identity)
    (registered :
      ((register cluster s).run.run (inMemory pacing) (store, timeline)).1 = .ok id) :
    let first := (register cluster s).run.run (inMemory pacing) (store, timeline)
    let second := (register again s).run.run (inMemory pacing) first.2
    second.1 = .ok id ∧ second.2.1.writes = first.2.1.writes ∧
      second.2.1.clouds = first.2.1.clouds ∧ second.2.1.clusters = first.2.1.clusters := by
  intro first second
  obtain ⟨steps, takes, moves, -⟩ :=
    Flow.exists_takes_run (inMemory pacing) (register cluster s).run (store, timeline)
  rw [registered] at takes
  have path := register_takes takes
  obtain ⟨along, reachable⟩ := along_answers (reachable_of_registered path moves) moves
  obtain ⟨scope, identity, acting, same, nonempty, housed, enrolled⟩ := path.enrolled along
  have acting : knownScope again s = .ok scope := by
    rw [← acting, knownScope, knownScope, token]
  obtain ⟨steps', takes', moves', -⟩ :=
    Flow.exists_takes_run (inMemory pacing) (register again s).run first.2
  obtain ⟨along', -⟩ := along_answers reachable moves'
  obtain ⟨result, unchanged⟩ := (register_takes takes').of_enrolled acting (self.trans same)
    nonempty housed enrolled along'
  have writes := congrArg Store.writes unchanged
  have clouds := congrArg Store.clouds unchanged
  have clusters := congrArg Store.clusters unchanged
  exact ⟨result, writes, clouds, clusters⟩

/-- A record without an identity is claimed by the configured id, and then the version can no
longer be found out. -/
theorem claimed_record_is_registered_again :
    let store : Store := {
      clouds := [{ CloudRecord.privateCloud with id := some "cloud" }]
      clusters := [{ id := some "cluster", install := .known .pending, state := .known .pending }] }
    let settings : Settings := { account := "account", clusterId := some "cluster" }
    let cluster : LocalCluster := ⟨fun _ => .ok "token", .ok {}, .ok "identity"⟩
    let again : LocalCluster := { cluster with version := .error (.unavailable "no version") }
    let first := (register cluster settings).run.run (inMemory .recording) (store, {})
    let second := (register again settings).run.run (inMemory .recording) first.2
    first.1 = .ok "cluster" ∧ second.1 = .ok "cluster" ∧ second.2.1.writes = first.2.1.writes ∧
      second.2.1.clouds = first.2.1.clouds ∧ second.2.1.clusters = first.2.1.clusters := by
  suffices registered : _ from
    ⟨registered, register_again_changes_nothing .recording _ _ _ _ _ _ rfl rfl registered⟩
  decide +kernel

end Enrollment.Registration
