import Enrollment.Proofs.Inventory.Separation
import Enrollment.Proofs.Registration.PrivateCloud
import Enrollment.Proofs.Registration.Repetition
import Enrollment.Proofs.Unregistration.Path

/-!
# Undoing a registration

A registration that yields an id writes to records with this id and to no others, and it moves
no record to another cloud: `Kept` compares the store behind it with the one in front. An
unregistration does not ask where the record is. It looks for the private cloud and addresses
the deletion to it, so that it undoes what a registration has done where there is a private
cloud, and leaves everything as it is where there is none. A registration for which no cloud is
configured leaves a private cloud, and the record that it creates is in there.
-/

namespace Enrollment

open Inventory

namespace Inventory.Store

/-- The clusters that have another id. -/
def without (id : String) (s : Store) : List ClusterRecord := s.clusters.filter (·.id ≠ some id)

variable {s t u : Store} {id cloudId : String} {r : ClusterRecord}

/-- The private cloud stays the first one. -/
theorem homeId?_of_prefix (home : s.homeId? = some id) (grown : s.clouds <+: t.clouds) :
    t.homeId? = some id := by
  obtain ⟨cloud, present, named⟩ := Option.bind_eq_some_iff.mp home
  obtain ⟨more, grown⟩ := grown
  have found : Registration.privateCloud? t.clouds = some cloud := by
    have same : s.clouds.find? (fun cloud => cloud.isPrivate && cloud.hasId) = some cloud := present
    rw [Registration.privateCloud?, ← grown, List.find?_append, same, Option.some_or]
  rw [homeId?, found]
  exact named

/-- Every cluster has an id that is not empty behind a call when every one had it in front. -/
theorem Effect.named {call : Call} {a : call.Answer} (h : s.Effect call a t)
    (named : ∀ r ∈ s.clusters, r.idText ≠ "") : ∀ r ∈ t.clusters, r.idText ≠ "" := by
  intro r member
  cases h with
  | cloudRead | cloudsListed | cloudCreated | clustersListed | clusterRead | managedRead =>
      exact named r member
  | clusterCreated =>
      rcases List.mem_append.mp member with old | new
      · exact named r old
      · rw [List.mem_singleton.mp new]
        exact idText_ne_empty "cluster" (s.issued + 1)
  | clusterUpdated _ changed | clusterPromoted _ changed | clusterUnmanaged changed =>
      rcases mem_modifyFirst changed member with old | ⟨q, old, -, rfl⟩
      · exact named r old
      · exact named q old
  | clusterDeleted => exact named r (List.mem_of_mem_filter member)

/-- From `s` to `t` only records with this id have changed; each of them is in a cloud in which
one has been before, or in this one. -/
structure Kept (id cloudId : String) (s t : Store) : Prop where
  others : t.without id = s.without id
  place : ∀ r ∈ t.clusters, r.id = some id →
    r.cloudId = cloudId ∨ ∃ q ∈ s.clusters, q.id = some id ∧ q.cloudId = r.cloudId

theorem Kept.refl (id cloudId : String) (s : Store) : Kept id cloudId s s :=
  ⟨rfl, fun r member named => .inr ⟨r, member, named, rfl⟩⟩

theorem Kept.of_clusters (h : Kept id cloudId s t) (same : u.clusters = t.clusters) :
    Kept id cloudId s u := by
  refine ⟨?_, ?_⟩
  · rw [without, same]
    exact h.others
  · rw [same]
    exact h.place

/-- A record with this id may be put into this cloud. -/
theorem Kept.append (h : Kept id cloudId s t) (clusters : u.clusters = t.clusters ++ [r])
    (named : r.id = some id) (place : r.cloudId = cloudId) : Kept id cloudId s u := by
  refine ⟨?_, fun q member named => ?_⟩
  · rw [without, clusters, List.filter_append, List.filter_cons_of_neg (by simp [named]),
      List.filter_nil, List.append_nil]
    exact h.others
  · rw [clusters] at member
    rcases List.mem_append.mp member with old | new
    · exact h.place q old named
    · rw [List.mem_singleton.mp new]
      exact .inl place

/-- A record with this id may be changed where it is. -/
theorem Kept.modify {f : ClusterRecord → ClusterRecord} (h : Kept id cloudId s t)
    (changed : modifyFirst id f t.clusters = some u.clusters)
    (keeps : ∀ r, (f r).id = r.id ∧ (f r).cloudId = r.cloudId) : Kept id cloudId s u := by
  refine ⟨?_, fun q member named => ?_⟩
  · rw [← h.others]
    refine filter_modifyFirst changed fun r _ named => ?_
    exact ⟨by simp [named], by simp [(keeps r).1, named]⟩
  · rcases mem_modifyFirst changed member with old | ⟨r, old, same, rfl⟩
    · exact h.place q old named
    · rw [(keeps r).2]
      exact h.place r old same

end Inventory.Store

namespace Registration

section

variable {s t : Store} {scope : Scope} {steps : List Step} {step : Step} {id : String}
variable {cloudId identity name : String} {configured : Option String}
variable {cluster : LocalCluster} {settings : Settings}

/-! ## Where a registration writes -/

/-- The step writes to the cluster with this id alone, which it may create in this cloud. -/
def Step.WritesOnly (id cloudId : String) : Step → Prop
  | .call _ (.createCluster place _) answer =>
    place = cloudId ∧ ∀ r : ClusterRecord, answer = .ok r → r.idText = id
  | .call _ c _ => ∀ other, c.target? = some other → other = id
  | _ => True

theorem Step.writesOnly_of_spares (spares : ¬ step.WritesCluster) :
    step.WritesOnly id cloudId := by
  cases step with
  | call scope call answer =>
      cases call with
      | createCluster | updateCluster | promote | unmanage | deleteCluster =>
          exact absurd trivial spares
      | _ => exact fun other target => nomatch target
  | now | pause => trivial

theorem ClusterPath.writesOnly {resolution : Resolution}
    (path : ClusterPath scope cloudId configured identity name steps (.ok resolution)) :
    ∀ step ∈ steps, step.WritesOnly resolution.record.idText cloudId := by
  cases path with
  | configured _ _ path =>
      refine fun step member => Step.writesOnly_of_spares ?_
      revert step
      cases path <;> simp [Step.WritesCluster, Call.WritesCluster]
  | byIdentity _ _ path =>
      cases path with
      | registered | adopted =>
          refine fun step member => Step.writesOnly_of_spares ?_
          rw [List.mem_singleton.mp member]
          exact id
      | created =>
          refine List.forall_mem_cons.mpr ⟨Step.writesOnly_of_spares id, ?_⟩
          refine List.forall_mem_singleton.mpr ⟨rfl, ?_⟩
          rintro _ ⟨⟩
          rfl

theorem PromotionPath.writesOnly {version : ClusterVersion} {resolution : Resolution}
    (path : PromotionPath scope settings cloudId identity version resolution steps (.ok id))
    (place : String) :
    resolution.record.idText = id ∧ ∀ step ∈ steps, step.WritesOnly id place := by
  have refreshes (r : ClusterRecord) (answer : Except Failure Unit) :
      Step.WritesOnly r.idText place
        (.call scope (refreshCall settings cloudId identity version r) answer) :=
    fun _ target => (Option.some.inj target).symm
  have promotes (r : ClusterRecord) (answer : Except Failure Unit) :
      Step.WritesOnly r.idText place
        (.call scope (promotionCall settings cloudId identity version r) answer) :=
    fun _ target => (Option.some.inj target).symm
  cases path with
  | @refreshed r answer _ result =>
      cases answer with
      | error e => cases result
      | ok a =>
          cases result
          refine ⟨rfl, List.forall_mem_cons.mpr ⟨refreshes r _, ?_⟩⟩
          exact List.forall_mem_singleton.mpr (promotes r _)
  | @fresh r answer _ result =>
      cases answer with
      | error e => cases result
      | ok a =>
          cases result
          exact ⟨rfl, List.forall_mem_singleton.mpr (promotes r _)⟩

/-- A registration resolves a cloud first, and then writes to the cluster whose id it yields. -/
theorem RegistrationPath.writesOnly (path : RegistrationPath cluster settings steps (.ok id)) :
    ∃ scope cloudId first rest, steps = first ++ rest ∧
      CloudPath scope settings.cloudId first (.ok cloudId) ∧
      ∀ step ∈ steps, step.WritesOnly id cloudId := by
  cases path with
  | @registered _ _ cloudId _ _ _ _ _ cloud record =>
      refine ⟨_, cloudId, _, _, rfl, cloud, List.forall_mem_append.mpr ⟨?_, record.writesOnly⟩⟩
      exact fun step member => Step.writesOnly_of_spares (cloud.spares step member)
  | @promoted _ _ cloudId _ _ _ _ _ _ _ _ cloud record _ _ promotion =>
      obtain ⟨rfl, third⟩ := promotion.writesOnly cloudId
      refine ⟨_, cloudId, _, _, rfl, cloud, List.forall_mem_append.mpr ⟨?_, ?_⟩⟩
      · exact fun step member => Step.writesOnly_of_spares (cloud.spares step member)
      · exact List.forall_mem_append.mpr ⟨record.writesOnly, third⟩

/-! ## What a registration leaves in its place -/

theorem Answers.kept {start : Store} (h : Answers s step t) (only : step.WritesOnly id cloudId)
    (kept : Store.Kept id cloudId start s) : Store.Kept id cloudId start t := by
  cases h with
  | answered effect =>
      cases effect with
      | clusterCreated =>
          obtain ⟨rfl, yields⟩ := only
          have named := yields _ rfl
          exact kept.append rfl (named ▸ rfl) rfl
      | clusterUpdated named changed =>
          obtain rfl := only _ named
          exact kept.modify changed fun _ => ⟨rfl, rfl⟩
      | clusterPromoted _ changed | clusterUnmanaged changed =>
          obtain rfl := only _ rfl
          exact kept.modify changed fun _ => ⟨rfl, rfl⟩
      | clusterDeleted =>
          obtain rfl := only _ rfl
          refine ⟨?_, fun r member named => ?_⟩
          · rw [← kept.others]
            simp [Store.without]
          · exact kept.place r (List.mem_of_mem_filter member) named
      | _ => exact kept.of_clusters rfl
  | refused | now | pause => exact kept

/-- The configured cloud is the one that is resolved. -/
theorem CloudPath.eq_configured {given : String} (path : CloudPath scope configured steps (.ok id))
    (same : configuredId? configured = some given) : given = id := by
  cases path with
  | configured given => exact Option.some.inj (same.symm.trans given)
  | found free | created free => cases same.symm.trans free

theorem named_of_answers (named : ∀ r ∈ s.clusters, r.idText ≠ "")
    (along : Along Answers s steps t) : ∀ r ∈ t.clusters, r.idText ≠ "" := by
  have keeps : Throughout Answers (fun u => ∀ r ∈ u.clusters, r.idText ≠ "") s steps := by
    refine Throughout.of_keeps (fun _ _ _ _ named first => ?_) named
    cases first with
    | answered effect => exact effect.named named
    | refused | now | pause => exact named
  exact keeps.last along

/-- A registration that yields an id changes nothing but records with this id. What it creates
is in the configured cloud, or else in the private one, which is there then. -/
theorem RegistrationPath.kept (path : RegistrationPath cluster settings steps (.ok id))
    (along : Along Answers s steps t) :
    s.clouds <+: t.clouds ∧ ∃ cloudId, Store.Kept id cloudId s t ∧
      (configuredId? settings.cloudId = none → t.homeId? = some cloudId) ∧
      ∀ given, configuredId? settings.cloudId = some given → given = cloudId := by
  obtain ⟨scope, cloudId, first, rest, rfl, cloud, only⟩ := path.writesOnly
  have kept : Throughout Answers (Store.Kept id cloudId s) s (first ++ rest) :=
    Throughout.of_keeps (fun _ step _ member kept moved => moved.kept (only step member) kept)
      (.refl id cloudId s)
  have grown := clouds_prefix_of_along (Answers.along_reacts along)
  refine ⟨grown, cloudId, kept.last along, fun free => ?_, ?_⟩
  · obtain ⟨u, left, right⟩ := along_append_iff.mp along
    have grown := clouds_prefix_of_along (Answers.along_reacts right)
    exact Store.homeId?_of_prefix (cloud.homeId? free (Answers.along_reacts left)) grown
  · exact fun given same => cloud.eq_configured same

/-- A cluster with the id that a registration yields is there then. -/
theorem RegistrationPath.present (named : ∀ r ∈ s.clusters, r.idText ≠ "")
    (path : RegistrationPath cluster settings steps (.ok id)) (along : Along Answers s steps t) :
    (t.cluster? id).isSome = true := by
  obtain ⟨_, _, _, _, _, _, r, found, same, _⟩ := path.enrolled along
  have member := List.mem_of_find?_eq_some found
  have nonempty := named_of_answers named along r member
  refine List.find?_isSome.mpr ⟨r, member, decide_eq_true ?_⟩
  rw [← same]
  exact ClusterRecord.id_of_idText nonempty

/-! ## What an unregistration does -/

/-- The cloud that a step deletes a cluster from. -/
def Step.deletedFrom? : Step → Option String
  | .call _ (.deleteCluster cloudId _) _ => some cloudId
  | _ => none

/-- Attempts that may be made are made. -/
theorem attemptsFrom_tries {α : Type} {x : Procedure α} {interval : Duration} {left : Nat}
    {verdict : Instant → Option PollFailure} {out : Except PollFailure α}
    (acts : ∀ result, ¬ x.run.Takes [] result) (positive : 0 < left) :
    ¬ (PollPolicy.attemptsFrom verdict (Flow.now Flow.done) (Flow.pause interval Flow.done)
      x.run left).Takes [] out := by
  intro h
  cases left with
  | zero => exact absurd positive (Nat.lt_irrefl 0)
  | succ left =>
      obtain ⟨round, outcome, behind, split, tried, -⟩ := Flow.Takes.of_bind h
      obtain ⟨rfl, -⟩ := List.append_eq_nil_iff.mp split.symm
      exact acts outcome tried

/-- A poll whose deadline the clock can show tries once at least. -/
theorem poll_tries {α : Type} {p : PollPolicy} {operation : String} {x : Procedure α}
    {started : Instant} {out : Except Failure α} (timely : (started.add? p.timeout).isSome = true)
    (acts : ∀ result, ¬ x.run.Takes [] result) :
    ¬ (Procedure.poll p operation x).run.Takes [.now started] out := by
  intro h
  obtain ⟨polled, result, last, split, polls, tail⟩ := Flow.Takes.of_bind h
  obtain ⟨rfl, -⟩ := Flow.takes_done_iff.mp tail
  rw [List.append_nil] at split
  obtain ⟨read, shown, rest, rfl, clock, rounds⟩ := Flow.Takes.of_bind polls
  rw [takes_clock clock] at split
  obtain ⟨same, rfl⟩ := List.cons.inj split
  cases same
  obtain ⟨deadline, reachable⟩ := Option.isSome_iff_exists.mp timely
  rw [reachable] at rounds
  exact attemptsFrom_tries acts (by decide) rounds

/-- A poll of a store that answers ends with the first listing. -/
theorem PollPath.of_answers {interval : Duration} {out : Except PollFailure (Option CloudRecord)}
    (path : PollPath (findPrivateCloud scope) interval steps out)
    (along : Along Answers s steps t) :
    (steps = [] ∧ out = .error .outOfRange) ∨
      (steps = [.call scope .listClouds (.ok s.clouds)] ∧ out = .ok (privateCloud? s.clouds) ∧
        t = s) := by
  have unlisted {first : List Step} {e : Failure} {u : Store}
      (round : (findPrivateCloud scope).run.Takes first (.error e)) :
      ¬ Along Answers s first u := by
    intro along
    obtain ⟨answer, rfl, result⟩ := findPrivateCloud_takes round
    cases along_singleton_iff.mp along with
    | answered => cases result
    | refused why => cases why
  cases path with
  | exhausted => exact .inl ⟨rfl, rfl⟩
  | succeeded round =>
      obtain ⟨answer, rfl, result⟩ := findPrivateCloud_takes round
      cases along_singleton_iff.mp along with
      | answered effect =>
          cases effect
          cases result
          exact .inr ⟨rfl, rfl, rfl⟩
      | refused why => cases why
  | abandoned round | again round =>
      obtain ⟨u, first, -⟩ := along_append_iff.mp along
      exact absurd first (unlisted round)

/-- An unregistration does more than read the clock once it knows its account. -/
theorem unregister_tries {poll : PollPolicy} {started : Instant} {out : Except Failure Unit}
    (acting : knownScope cluster settings = .ok scope)
    (timely : (started.add? poll.timeout).isSome = true) :
    ¬ (unregister cluster settings poll id).run.Takes [.now started] out := by
  intro h
  have acts (result : Except Failure (Option CloudRecord)) :
      ¬ (findPrivateCloud scope).run.Takes [] result := by
    intro idle
    obtain ⟨answer, split, -⟩ := findPrivateCloud_takes idle
    cases split
  unfold unregister at h
  rw [scopeOf_eq, acting] at h
  rcases Procedure.takes_ofExcept_bind h with ⟨e, unknown, -, -⟩ | ⟨_, ⟨⟩, h⟩
  · cases unknown
  rcases Procedure.takes_bind h with ⟨e, polls, -⟩ | ⟨first, cloud, rest, split, polls, -⟩
  · exact poll_tries timely acts polls
  · obtain ⟨shown, polled, result, rfl, -⟩ := poll_takes polls
    obtain ⟨same, split⟩ := List.cons.inj split
    obtain ⟨rfl, -⟩ := List.append_eq_nil_iff.mp split.symm
    exact poll_tries timely acts (same ▸ polls)

/-- A cluster that is there can be unmanaged, and stays there. -/
theorem Answers.unmanaged {answer : Except Failure Unit}
    (h : Answers s (.call scope (.unmanage id) answer) t)
    (present : (s.cluster? id).isSome = true) :
    answer = .ok () ∧ (t.cluster? id).isSome = true ∧ t.without id = s.without id ∧
      t = { s with clusters := t.clusters, writes := s.writes ++ [.unmanage id] } := by
  cases h with
  | answered effect =>
      cases effect with
      | clusterUnmanaged changed =>
          refine ⟨rfl, ?_, ?_, rfl⟩
          · obtain ⟨front, r, back, -, named, rfl⟩ := Store.modifyFirst_eq_some changed
            refine List.find?_isSome.mpr ⟨Store.unmanaged r, ?_, decide_eq_true named⟩
            exact List.mem_append_right front List.mem_cons_self
          · refine Store.filter_modifyFirst changed fun r _ named => ?_
            exact ⟨by simp [named], by simp [Store.unmanaged, named]⟩
  | refused why =>
      obtain ⟨r, found⟩ := Option.isSome_iff_exists.mp present
      obtain ⟨member, named⟩ := Store.mem_of_cluster? found
      obtain ⟨after, changed⟩ := Store.exists_modifyFirst (f := Store.unmanaged) member named
      rw [Store.answer, changed] at why
      cases why

/-- A cluster that is there can be deleted. -/
theorem Answers.deleted {place : String} {answer : Except Failure Unit}
    (h : Answers s (.call scope (.deleteCluster place id) answer) t)
    (present : (s.cluster? id).isSome = true) :
    answer = .ok () ∧
      t = { s with clusters := s.without id, writes := s.writes ++ [.deleteCluster id] } := by
  cases h with
  | answered effect =>
      cases effect with
      | clusterDeleted => exact ⟨rfl, rfl⟩
  | refused why =>
      have found : ¬ (s.cluster? id).isNone = true := by
        simpa [Option.isSome_iff_ne_none] using present
      rw [Store.answer, if_neg found] at why
      cases why

/-- In a store that answers, an unregistration removes the cluster when there is a private cloud,
and changes nothing when there is none. -/
theorem UnregistrationPath.of_answers {interval : Duration} {out : Except Failure Unit}
    (acting : knownScope cluster settings = .ok scope)
    (path : UnregistrationPath cluster settings interval id steps out)
    (tries : ∀ started, steps ≠ [.now started]) (present : (s.cluster? id).isSome = true)
    (along : Along Answers s steps t) :
    (∀ home, s.homeId? = some home → out = .ok () ∧ steps.filterMap Step.deletedFrom? = [home] ∧
      t = { s with
        clusters := s.without id
        writes := s.writes ++ [.unmanage id, .deleteCluster id] }) ∧
    (s.homeId? = none → out = .error (.notFound .privateCloud) ∧ t = s) := by
  -- The poll is one listing, and the requests start from the store that it shows.
  have listed {scope : Scope} {started : Instant} {polled rest : List Step}
      {cloud : Option CloudRecord}
      (poll : PollPath (findPrivateCloud scope) interval polled (.ok cloud))
      (along : Along Answers s (.now started :: (polled ++ rest)) t) :
      cloud.bind (·.id) = s.homeId? ∧ polled = [.call scope .listClouds (.ok s.clouds)] ∧
        Along Answers s rest t := by
    obtain ⟨u, first, along⟩ := along_cons_iff.mp along
    cases first
    obtain ⟨v, left, right⟩ := along_append_iff.mp along
    rcases poll.of_answers left with ⟨-, failed⟩ | ⟨rfl, found, rfl⟩
    · cases failed
    · cases found
      exact ⟨rfl, rfl, right⟩
  cases path with
  | unacting unknown => cases acting.symm.trans unknown
  | unlisted _ poll =>
      obtain ⟨u, first, along⟩ := along_cons_iff.mp along
      rcases poll.of_answers along with ⟨rfl, -⟩ | ⟨-, found, -⟩
      · exact absurd rfl (tries _)
      · cases found
  | @homeless _ _ polled _ _ poll absent =>
      rw [← List.append_nil polled] at along
      obtain ⟨same, -, behind⟩ := listed poll along
      obtain rfl := along_nil_iff.mp behind
      refine ⟨fun home found => ?_, fun _ => ⟨rfl, rfl⟩⟩
      cases absent.symm.trans (same.trans found)
  | kept _ poll home =>
      obtain ⟨-, -, behind⟩ := listed poll along
      cases ((along_singleton_iff.mp behind).unmanaged present).1
  | unmanaged _ poll home =>
      obtain ⟨same, rfl, behind⟩ := listed poll along
      obtain ⟨u, first, second⟩ := along_cons_iff.mp behind
      obtain ⟨-, there, others, left⟩ := first.unmanaged present
      obtain ⟨rfl, result⟩ := (along_singleton_iff.mp second).deleted there
      refine ⟨fun place found => ⟨rfl, ?_, ?_⟩, fun absent => ?_⟩
      · cases home.symm.trans (same.trans found)
        rfl
      · rw [result, others, left]
        simp
      · cases home.symm.trans (same.trans absent)

end

/-- An unregistration undoes a registration where there is a private cloud. Start with a store in
which all clusters have ids. When a registration has yielded an id, the store has grown by clouds
at most, and the record with this id is in a cloud in which such a record has been before, or in
the one that has been resolved: the configured cloud, or the private one. Then unregister with
the same settings and this id, at any later time that leaves the poll a deadline which the clock
can show. With a private cloud, that succeeds: the cluster is deleted from this cloud, whichever
it is in; no record with this id is left; all other clusters are as they have been in the
beginning, and all clouds stay. Without a private cloud, which means that another cloud is
configured, there is nothing to unregister, and nothing is changed. -/
theorem unregister_undoes_register (pacing : Pacing) (cluster : LocalCluster) (s : Settings)
    (poll : PollPolicy) (store : Store) (timeline later : Timeline) (id : String)
    (named : ∀ r ∈ store.clusters, r.idText ≠ "")
    (timely : (later.now.add? poll.timeout).isSome = true)
    (registered :
      ((register cluster s).run.run (inMemory pacing) (store, timeline)).1 = .ok id) :
    let first := ((register cluster s).run.run (inMemory pacing) (store, timeline)).2.1
    let withdrawal := (unregister cluster s poll id).run
    let second := withdrawal.run (inMemory pacing) (first, later)
    store.clouds <+: first.clouds ∧
    (∃ r, first.cluster? id = some r ∧
      (r.cloudId = (configuredId? s.cloudId).getD (first.homeId?.getD "") ∨
        ∃ q ∈ store.clusters, q.id = some id ∧ q.cloudId = r.cloudId)) ∧
    (∀ home, first.homeId? = some home →
      second.1 = .ok () ∧
      (withdrawal.trace (inMemory pacing) (first, later)).filterMap Step.deletedFrom? = [home] ∧
      second.2.1.writes = first.writes ++ [.unmanage id, .deleteCluster id] ∧
      second.2.1.clusters = store.without id ∧ second.2.1.clouds = first.clouds) ∧
    (first.homeId? = none →
      configuredId? s.cloudId ≠ none ∧ second.1 = .error (.notFound .privateCloud) ∧
      second.2.1.contents = first.contents) := by
  intro first withdrawal second
  obtain ⟨steps, takes, moves, -⟩ :=
    Flow.exists_takes_run (inMemory pacing) (register cluster s).run (store, timeline)
  rw [registered] at takes
  have path := register_takes takes
  obtain ⟨along, reachable⟩ := along_answers (reachable_of_registered path moves) moves
  change Along Answers store.contents steps first.contents at along
  obtain ⟨grown, cloudId, kept, resolved, given⟩ := path.kept along
  obtain ⟨scope, -, acting, -⟩ := path.enrolled along
  have there : (first.contents.cluster? id).isSome = true :=
    path.present (s := store.contents) named along
  obtain ⟨record, present⟩ := Option.isSome_iff_exists.mp there
  obtain ⟨member, called⟩ := Store.mem_of_cluster? present
  have place := kept.place record member called
  have home : cloudId = (configuredId? s.cloudId).getD (first.homeId?.getD "") := by
    cases configured : configuredId? s.cloudId with
    | none =>
        have home : first.homeId? = some cloudId := resolved configured
        rw [home]
        rfl
    | some other => exact (given other configured).symm
  have moves := Flow.along_trace (inMemory pacing) withdrawal (first, later)
  have out := Flow.takes_trace (inMemory pacing) withdrawal (first, later)
  have tries (started : Instant) :
      withdrawal.trace (inMemory pacing) (first, later) ≠ [.now started] := by
    intro idle
    rw [idle] at moves out
    obtain ⟨_, read, -⟩ := along_cons_iff.mp moves
    cases read with
    | now => exact unregister_tries acting timely out
  have behind : Along Answers first.contents (withdrawal.trace (inMemory pacing) (first, later))
      second.2.1.contents := (along_answers (s := (first, later)) reachable moves).1
  obtain ⟨undone, spared⟩ := (unregister_takes out).of_answers acting tries there behind
  refine ⟨grown, ⟨record, present, home ▸ place⟩, fun place found => ?_, fun absent => ?_⟩
  · obtain ⟨result, deleted, left⟩ := undone place found
    have writes := congrArg Store.writes left
    have clusters := (congrArg Store.clusters left).trans kept.others
    have clouds := congrArg Store.clouds left
    exact ⟨result, deleted, writes, clusters, clouds⟩
  · obtain ⟨result, left⟩ := spared absent
    refine ⟨fun free => ?_, result, left⟩
    cases absent.symm.trans (resolved free)

/-- The private cloud is created, and the record is deleted from there. -/
theorem created_record_is_undone :
    let cluster : LocalCluster := ⟨fun _ => .ok "token", .ok {}, .ok "identity"⟩
    let s : Settings := { account := "account" }
    let store : Store := {
      clouds := [{ id := some "aws", name := "aws" }]
      clusters := [{ id := some "other", identity := "other", install := .known .installed }] }
    ((∀ r ∈ store.clusters, r.idText ≠ "") ∧
      (Instant.start.add? PollPolicy.standard.timeout).isSome = true ∧
      ((register cluster s).run.run (inMemory .virtual) (store, {})).1 = .ok "cluster-0002") ∧
    let first := ((register cluster s).run.run (inMemory .virtual) (store, {})).2.1
    let withdrawal := (unregister cluster s .standard "cluster-0002").run
    let second := withdrawal.run (inMemory .virtual) (first, {})
    store.clouds <+: first.clouds ∧
    (∃ r, first.cluster? "cluster-0002" = some r ∧
      (r.cloudId = (configuredId? s.cloudId).getD (first.homeId?.getD "") ∨
        ∃ q ∈ store.clusters, q.id = some "cluster-0002" ∧ q.cloudId = r.cloudId)) ∧
    (∀ home, first.homeId? = some home →
      second.1 = .ok () ∧
      (withdrawal.trace (inMemory .virtual) (first, {})).filterMap Step.deletedFrom? = [home] ∧
      second.2.1.writes =
        first.writes ++ [.unmanage "cluster-0002", .deleteCluster "cluster-0002"] ∧
      second.2.1.clusters = store.without "cluster-0002" ∧ second.2.1.clouds = first.clouds) ∧
    (first.homeId? = none →
      configuredId? s.cloudId ≠ none ∧ second.1 = .error (.notFound .privateCloud) ∧
      second.2.1.contents = first.contents) := by
  intro cluster s store
  have named : ∀ r ∈ store.clusters, r.idText ≠ "" := by decide
  have timely : (Instant.start.add? PollPolicy.standard.timeout).isSome = true := by decide +kernel
  have registered :
      ((register cluster s).run.run (inMemory .virtual) (store, {})).1 = .ok "cluster-0002" := by
    decide +kernel
  exact ⟨⟨named, timely, registered⟩,
    unregister_undoes_register .virtual cluster s .standard store {} {} "cluster-0002" named timely
      registered⟩

/-- Where another cloud is configured, what has been registered is not found again: without a
private cloud it stays, and next to one it is not deleted from the cloud that it is in. -/
theorem registered_elsewhere_is_not_undone :
    let cluster : LocalCluster := ⟨fun _ => .ok "token", .ok {}, .ok "identity"⟩
    let s : Settings := { account := "account", cloudId := some "aws" }
    let aws : CloudRecord := { id := some "aws", name := "aws" }
    let home : CloudRecord := { CloudRecord.privateCloud with id := some "home" }
    let first (store : Store) := (register cluster s).run.run (inMemory .virtual) (store, {})
    let withdrawal := (unregister cluster s .standard "cluster-0001").run
    let alone := first { clouds := [aws] }
    let beside := first { clouds := [aws, home] }
    (alone.1 = .ok "cluster-0001" ∧
      (withdrawal.run (inMemory .virtual) alone.2).1 = .error (.notFound .privateCloud) ∧
      (withdrawal.run (inMemory .virtual) alone.2).2.1.clusters = alone.2.1.clusters) ∧
    (beside.1 = .ok "cluster-0001" ∧
      (beside.2.1.cluster? "cluster-0001").map (·.cloudId) = some "aws" ∧
      (withdrawal.trace (inMemory .virtual) beside.2).filterMap Step.deletedFrom? = ["home"]) := by
  decide +kernel

end Registration

end Enrollment
