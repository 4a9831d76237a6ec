import Enrollment.Proofs.Flow.Interleaving
import Enrollment.Proofs.Inventory.Separation
import Enrollment.Proofs.Registration.Resumption

/-!
# Registrations of different clusters

Registrations read a listing, decide, and write later, with nothing to keep others from writing
in between. For clusters with different identities this does no harm. Each registration decides
by the records that carry its own identity, and writes to these records alone, so that what it has
read of them is still true when it writes. The records of the identities share a store in the
sense of `Sharing`, and a registration abides by this.
-/

namespace Enrollment.Registration

open Inventory

/-! ## What is shared -/

/-- Clusters that are told apart by their identities. -/
structure Parties (ι : Type) where
  identity : ι → String
  nonempty : ∀ i, identity i ≠ ""
  distinct : identity.Injective

section

variable {ι : Type} {parties : Parties ι} {base s t : Store}

/-- What registrations of these clusters make of a store: ids are as they have to be, clouds and
the records of other identities are as they were, and no identity has become ambiguous. -/
structure Undisturbed (parties : Parties ι) (base s : Store) : Prop where
  named : s.WellNamed
  identified : ∀ r ∈ s.clusters, r.id ≠ none
  clouds : s.clouds = base.clouds
  others : ∀ keep : String → Bool, (∀ i, keep (parties.identity i) = false) →
    s.clusters.filter (keep ·.identity) = base.clusters.filter (keep ·.identity)
  sole : ∀ identity, base.Sole identity → s.Sole identity

theorem Undisturbed.effect {call : Call} {a : call.Answer} {i : ι}
    (h : Undisturbed parties base s) (within : call.StaysWithin (parties.identity i) s)
    (effect : s.Effect call a t) : Undisturbed parties base t where
  named := effect.wellNamed h.named
  identified := effect.identified h.identified
  clouds := (effect.clouds_eq within).trans h.clouds
  others keep others := (effect.filter_eq h.named within (others i)).trans (h.others keep others)
  sole identity sole :=
    effect.sole_of_staysWithin (parties.nonempty i) within (h.sole identity sole)

/-- The clusters share the records of the store: each has those that carry its identity. -/
def Parties.sharing (parties : Parties ι) (base : Store) : Sharing Reacts ι Store where
  sound := Undisturbed parties base
  part i s := s.ofIdentity (parties.identity i)
  may i own call := call.StaysWithin (parties.identity i) own
  keeps i s step t sound may reacts := by
    cases reacts with
    | answered effect | unacknowledged effect =>
        exact sound.effect (Call.staysWithin_ofIdentity.mp may) effect
    | failed | now | pause => exact sound
  apart i j s step t other sound may reacts := by
    cases reacts with
    | answered effect | unacknowledged effect =>
        have within := Call.staysWithin_ofIdentity.mp may
        exact effect.ofIdentity_eq sound.named within (parties.distinct.ne other)
    | failed | now | pause => rfl

/-! ## What one of them sees -/

section Sees

variable {i : ι} {own left : Store} {scope : Scope} {id : String}

theorem Parties.clouds_listed {clouds : List CloudRecord}
    (seen : (parties.sharing base).Sees i own (.call scope .listClouds (.ok clouds)) left) :
    left = own ∧ clouds = base.clouds := by
  obtain ⟨s, t, sound, reacts, rfl, rfl⟩ := seen
  obtain ⟨rfl, rfl⟩ := reacts.clouds_listed
  exact ⟨rfl, sound.clouds⟩

theorem Parties.cloud_read {cloudId : String} {cloud : CloudRecord}
    (seen : (parties.sharing base).Sees i own (.call scope (.getCloud cloudId) (.ok cloud)) left) :
    left = own := by
  obtain ⟨s, t, -, reacts, rfl, rfl⟩ := seen
  cases reacts with
  | answered effect =>
      cases effect
      rfl

/-- A listing shows what is tracked for the identity, whatever else it shows. -/
theorem Parties.clusters_listed {clusters : List ClusterRecord}
    (seen : (parties.sharing base).Sees i own (.call scope .listClusters (.ok clusters)) left) :
    left = own ∧
      tracked? (parties.identity i) clusters = tracked? (parties.identity i) own.clusters ∧
      ∀ r ∈ clusters, r.id ≠ none := by
  obtain ⟨s, t, sound, reacts, rfl, rfl⟩ := seen
  obtain ⟨rfl, rfl⟩ := reacts.clusters_listed
  exact ⟨rfl, Store.tracked?_ofIdentity.symm, sound.identified⟩

theorem Parties.cluster_created {cloudId : String} {r created : ClusterRecord}
    (self : r.identity = parties.identity i) (pending : r.install = .known .pending)
    (seen : (parties.sharing base).Sees i own
      (.call scope (.createCluster cloudId r) (.ok created)) left) :
    left.Holds (parties.identity i) created.idText := by
  obtain ⟨s, t, -, reacts, -, rfl⟩ := seen
  refine Store.holds_ofIdentity.mpr ?_
  cases reacts with
  | answered effect =>
      cases effect with
      | clusterCreated =>
          exact ⟨_, List.mem_append_right _ List.mem_cons_self,
            Store.isTrackedFor_created self pending, rfl⟩

theorem Parties.cluster_updated {cloudId : String} {r : ClusterRecord}
    (within : (Call.updateCluster cloudId r).StaysWithin (parties.identity i) own)
    (held : own.Holds (parties.identity i) id)
    (seen : (parties.sharing base).Sees i own
      (.call scope (.updateCluster cloudId r) (.ok ())) left) :
    left.Holds (parties.identity i) id := by
  obtain ⟨s, t, -, reacts, rfl, rfl⟩ := seen
  have within := Call.staysWithin_ofIdentity.mp within
  have held := Store.holds_ofIdentity.mp held
  cases reacts with
  | answered effect => exact Store.holds_ofIdentity.mpr (effect.holds within held)

theorem Parties.cluster_promoted {r : ClusterRecord} (self : r.identity = parties.identity i)
    (seen : (parties.sharing base).Sees i own (.call scope (.promote r) (.ok ())) left) :
    Settled (parties.identity i) r.idText left := by
  obtain ⟨s, t, -, reacts, -, rfl⟩ := seen
  refine Store.exists_tracked_ofIdentity.mpr ?_
  cases reacts with
  | answered effect =>
      have settled := settled_of_promote effect (self ▸ parties.nonempty i)
      rwa [self] at settled

end Sees

/-! ## Phase by phase -/

section Phases

variable {i : ι} {own : Store} {scope : Scope}

/-- What has been resolved is held for the identity, and a record that needs no promotion is
settled. -/
def Resolution.StandsFor (identity : String) (resolution : Resolution) (own : Store) : Prop :=
  own.Holds identity resolution.record.idText ∧
    (resolution.isRegistered = true → Settled identity resolution.record.idText own)

theorem abides_resolveCloud {configured : Option String} {yields : String → Store → Prop}
    (home : configuredId? configured ≠ none ∨ privateCloud? base.clouds ≠ none)
    (h : ∀ cloudId, yields cloudId own) :
    Procedure.Abides (parties.sharing base) i yields (resolveCloud scope configured) own := by
  unfold resolveCloud
  split
  · refine (Procedure.abides_callOr trivial fun cloud left seen => ?_).bind
    obtain rfl := Parties.cloud_read seen
    exact Procedure.abides_pure (h _)
  · next free =>
    have present := home.resolve_left (not_not.mpr free)
    simp only [resolvePrivateCloud, findPrivateCloud, bind_assoc, pure_bind]
    refine (Procedure.abides_call trivial fun clouds left seen => ?_).bind
    obtain ⟨rfl, rfl⟩ := Parties.clouds_listed seen
    split
    · exact Procedure.abides_pure (h _)
    · next absent => exact absurd absent present

theorem abides_resolveByIdentity {cloudId name : String} :
    Procedure.Abides (parties.sharing base) i (Resolution.StandsFor (parties.identity i))
      (resolveByIdentity scope cloudId (parties.identity i) name) own := by
  simp only [resolveByIdentity, findTracked, bind_assoc, pure_bind]
  refine (Procedure.abides_call trivial fun clusters left seen => ?_).bind
  -- The listing will be out of date, but not in what is decided by it.
  obtain ⟨rfl, same, identified⟩ := Parties.clusters_listed seen
  split
  · next r present =>
    have named : r.id = some r.idText := by
      obtain ⟨id, named⟩ := Option.ne_none_iff_exists'.mp (identified r (of_tracked? present).1)
      rw [named, ClusterRecord.idText_of_id named]
    rw [same] at present
    obtain ⟨member, tracked⟩ := of_tracked? present
    have held : left.Holds (parties.identity i) r.idText := ⟨r, member, tracked, named⟩
    refine Procedure.abides_ofExcept fun resolution judged => ?_
    rcases classify_cases (parties.identity i) r with
      ⟨standing, result⟩ | ⟨-, result⟩ | ⟨why, -, result⟩ <;> rw [result] at judged <;>
      cases judged
    · exact ⟨held, fun _ => settled_of_registered named present standing⟩
    · exact ⟨held, fun settled => by cases settled⟩
  · next absent =>
    have may : (Call.createCluster cloudId
        (pendingRecord cloudId (parties.identity i) name)).StaysWithin (parties.identity i) left :=
      ⟨rfl, rfl, same ▸ absent⟩
    refine (Procedure.abides_call may fun created left seen => ?_).bind
    refine Procedure.abides_pure ⟨Parties.cluster_created rfl rfl seen, fun settled => ?_⟩
    cases settled

theorem abides_promote {settings : Settings} {cloudId : String} {resolution : Resolution}
    {version : ClusterVersion} (unregistered : resolution.isRegistered = false)
    (held : own.Holds (parties.identity i) resolution.record.idText) :
    Procedure.Abides (parties.sharing base) i (Settled (parties.identity i))
      (promote scope settings cloudId (parties.identity i) resolution version) own := by
  have last {sent : ClusterRecord} {own : Store} (self : sent.identity = parties.identity i)
      (held : own.Holds (parties.identity i) sent.idText) :
      Procedure.Abides (parties.sharing base) i (Settled (parties.identity i))
        (do
          let _ ← Procedure.call scope (.promote sent)
          return sent.idText) own := by
    have may : (Call.promote sent).StaysWithin (parties.identity i) own := ⟨self, held⟩
    refine (Procedure.abides_call may fun _ left seen => ?_).bind
    exact Procedure.abides_pure (Parties.cluster_promoted self seen)
  cases resolution with
  | registered r => cases unregistered
  | created r => exact last rfl held
  | adopted r =>
      have may : (refreshCall settings cloudId (parties.identity i) version r).StaysWithin
          (parties.identity i) own := ⟨held, rfl⟩
      refine (Procedure.abides_call may fun _ left seen => ?_).bind
      exact last rfl (Parties.cluster_updated may held seen)

/-- A registration for the identity abides, and leaves settled what it yields. -/
theorem abides_register {cluster : LocalCluster} {settings : Settings}
    (self : cluster.identity = .ok (parties.identity i))
    (free : configuredId? settings.clusterId = none)
    (home : configuredId? settings.cloudId ≠ none ∨ privateCloud? base.clouds ≠ none) :
    Procedure.Abides (parties.sharing base) i (Settled (parties.identity i))
      (register cluster settings) own := by
  unfold register
  rw [scopeOf_eq]
  refine (Procedure.abides_ofExcept fun scope _ => ?_).bind
  refine (Procedure.abides_lookup fun identity known => ?_).bind
  obtain rfl := Except.ok.inj (self.symm.trans known)
  refine (abides_resolveCloud home fun cloudId => ?_).bind
  have resolved : resolveCluster scope cloudId settings.clusterId (parties.identity i)
      (settings.nameFor (parties.identity i)) = resolveByIdentity scope cloudId
        (parties.identity i) (settings.nameFor (parties.identity i)) := by
    have given : ¬ (parties.identity i).isEmpty = true :=
      mt String.isEmpty_iff.mp (parties.nonempty i)
    rw [resolveCluster, if_neg given, free]
  rw [resolved]
  refine (abides_resolveByIdentity.mono fun resolution own stands => ?_).bind
  split
  · next registered => exact Procedure.abides_pure (stands.2 registered)
  · next unregistered =>
    refine (Procedure.abides_lookup fun version _ => ?_).bind
    exact abides_promote (by simpa using unregistered) stands.1

end Phases

end

/-! ## All of them -/

/-- Registrations of different clusters do not interfere, in whatever order they take their
turns. Let ids be distinct and not to be drawn again, and no cluster id be configured, and let a
cloud be configured or a private one be there. What any of them is about to change is tracked for
its own identity; what any of them has yielded is tracked for it too, and is installed and
managed; clouds and the records of other identities are as they were; and no identity has more
records tracked for it than one unless it had before. -/
theorem registrations_do_not_interfere {ι : Type} [DecidableEq ι] (pacing : Pacing)
    (cluster : ι → LocalCluster) (settings : ι → Settings) (identity : ι → String)
    (store : Store) (timeline : Timeline)
    (self : ∀ i, (cluster i).identity = .ok (identity i)) (nonempty : ∀ i, identity i ≠ "")
    (distinct : identity.Injective) (free : ∀ i, configuredId? (settings i).clusterId = none)
    (home : ∀ i, configuredId? (settings i).cloudId ≠ none ∨ privateCloud? store.clouds ≠ none)
    (named : store.WellNamed) (identified : ∀ r ∈ store.clusters, r.id ≠ none) (turns : List ι) :
    let after := Flow.interleaved (inMemory pacing) turns
      (fun i => (register (cluster i) (settings i)).run) (store, timeline)
    let left := after.2.1
    (∀ i call id, (after.1 i).upcoming? = some call → call.target? = some id →
      left.Holds (identity i) id) ∧
    (∀ i id, (after.1 i).result? = some (.ok id) → Settled (identity i) id left) ∧
    left.WellNamed ∧ left.clouds = store.clouds ∧
    (∀ keep : String → Bool, (∀ i, keep (identity i) = false) →
      left.clusters.filter (keep ·.identity) = store.clusters.filter (keep ·.identity)) ∧
    ∀ other, (store.clusters.filter (·.isTrackedFor other)).length ≤ 1 →
      (left.clusters.filter (·.isTrackedFor other)).length ≤ 1 := by
  intro after left
  let parties : Parties ι := ⟨identity, nonempty, distinct⟩
  have start : Undisturbed parties store store.contents :=
    ⟨named.of_ids rfl (Nat.le_refl _), identified, rfl, fun _ _ => rfl, fun _ sole => sole⟩
  have abide (i : ι) : (register (cluster i) (settings i)).run.Abides (parties.sharing store) i
      (fun out own => ∀ id, out = .ok id → Settled (identity i) id own)
      (store.ofIdentity (identity i)) :=
    abides_register (self i) (free i) (home i)
  obtain ⟨sound, abide⟩ := Flow.abides_interleaved (s := (store, timeline)) (parties.sharing store)
    (fun s : Store × Timeline => s.1.contents) (fun s step t => moves_reacts) turns _ start abide
  refine ⟨fun i call id coming target => ?_, fun i id finished => ?_,
    sound.named.of_ids rfl (Nat.le_refl _), sound.clouds, sound.others, fun other short => ?_⟩
  · have abides := abide i
    obtain ⟨scope, next, current⟩ := Flow.eq_call_of_upcoming? coming
    rw [current] at abides
    exact (Call.staysWithin_ofIdentity.mp abides.1).holds_target target
  · have abides := abide i
    rw [Flow.eq_done_of_result? finished] at abides
    exact Store.exists_tracked_ofIdentity.mp (abides id rfl)
  · exact sound.named.length_tracked.mpr (sound.sole other (named.length_tracked.mp short))

/-- One registration takes up a pending record while the other one creates its own. Both have read
the clusters before either of them writes. -/
theorem adoption_and_creation_do_not_interfere :
    let identity (i : Bool) : String := if i then "one" else "two"
    let cluster (i : Bool) : LocalCluster := ⟨fun _ => .ok "token", .ok {}, .ok (identity i)⟩
    let settings (_ : Bool) : Settings := { account := "account" }
    let store := Store.seeded [.cloud .privateCloud,
      .cluster { identity := "one", install := .known .pending, state := .known .pending },
      .cluster { identity := "three", install := .known .installed }]
    let after := Flow.interleaved (inMemory .recording)
      [true, false, true, false, false, true, false, true]
      (fun i => (register (cluster i) (settings i)).run) (store, {})
    (after.1 true).result? = some (.ok "cluster-0002") ∧
    (after.1 false).result? = some (.ok "cluster-0004") ∧
    Settled "one" "cluster-0002" after.2.1 ∧ Settled "two" "cluster-0004" after.2.1 := by
  intro identity cluster settings store after
  have distinct : identity.Injective := by
    intro i j same
    cases i <;> cases j <;> first | rfl | exact absurd same (by decide)
  obtain ⟨-, settled, -⟩ := registrations_do_not_interfere .recording cluster settings identity
    store {} (fun _ => rfl) (by decide) distinct (fun _ => rfl) (by decide +kernel)
    (Store.wellNamed_seeded (by decide)) (by decide +kernel)
    [true, false, true, false, false, true, false, true]
  have one : (after.1 true).result? = some (.ok "cluster-0002") := by decide +kernel
  have two : (after.1 false).result? = some (.ok "cluster-0004") := by decide +kernel
  exact ⟨one, two, settled true _ one, settled false _ two⟩

end Enrollment.Registration
