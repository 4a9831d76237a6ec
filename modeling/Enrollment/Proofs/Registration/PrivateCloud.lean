import Enrollment.Proofs.Registration.Convergence

/-!
# One private cloud

A registration creates the private cloud when a listing shows none that has an id. Where every
cloud has an id, a listing without one shows that there is no private cloud at all; so the cloud
that is created is the only one, whether or not the answer to its creation arrives. Clouds are
never taken away. Whoever resolves the private cloud later is therefore told the same id.
-/

namespace Enrollment

open Inventory

namespace Inventory.Store

def privateClouds (s : Store) : List CloudRecord := s.clouds.filter (·.isPrivate)

/-- Every cloud has an id, and at most one of them is private. -/
structure SingleHome (s : Store) : Prop where
  named : ∀ cloud ∈ s.clouds, cloud.hasId = true
  single : s.privateClouds.length ≤ 1

/-- The id of the private cloud, if there is one. -/
def homeId? (s : Store) : Option String := (Registration.privateCloud? s.clouds).bind (·.id)

/-- There is a private cloud with this id. -/
def HasHome (s : Store) (id : String) : Prop :=
  ∃ cloud ∈ s.clouds, cloud.isPrivate = true ∧ cloud.id = some id

variable {s t : Store} {id : String} {cloud : CloudRecord} {call : Call} {a : call.Answer}

theorem SingleHome.of_clouds (h : s.SingleHome) (same : t.clouds = s.clouds) : t.SingleHome := by
  refine ⟨?_, ?_⟩
  · rw [same]
    exact h.named
  · rw [privateClouds, same]
    exact h.single

/-- Where every cloud has an id, none is private when the search for the private cloud fails. -/
theorem SingleHome.privateClouds_eq_nil (h : s.SingleHome)
    (absent : Registration.privateCloud? s.clouds = none) : s.privateClouds = [] := by
  refine List.filter_eq_nil_iff.mpr fun cloud member isPrivate => ?_
  have missed := List.find?_eq_none.mp absent cloud member
  exact missed (by simp [isPrivate, h.named cloud member])

/-- A cloud with an id may be put in when it is not private, or when no private one is there. -/
theorem SingleHome.append (h : s.SingleHome) (clouds : t.clouds = s.clouds ++ [cloud])
    (hasId : cloud.hasId = true) (free : cloud.isPrivate = true → s.privateClouds = []) :
    t.SingleHome := by
  refine ⟨fun other member => ?_, ?_⟩
  · rw [clouds] at member
    rcases List.mem_append.mp member with old | new
    · exact h.named other old
    · exact List.mem_singleton.mp new ▸ hasId
  · have split : t.privateClouds = s.privateClouds ++ [cloud].filter (·.isPrivate) := by
      rw [privateClouds, clouds, List.filter_append]
      rfl
    by_cases isPrivate : cloud.isPrivate = true
    · rw [split, free isPrivate]
      exact List.length_filter_le _ [cloud]
    · rw [split, List.filter_cons_of_neg isPrivate, List.filter_nil, List.append_nil]
      exact h.single

theorem hasHome_of_homeId? (home : s.homeId? = some id) : s.HasHome id := by
  obtain ⟨cloud, present, named⟩ := Option.bind_eq_some_iff.mp home
  have shown := List.find?_some present
  simp only [Bool.and_eq_true] at shown
  exact ⟨cloud, List.mem_of_find?_eq_some present, shown.1, named⟩

theorem HasHome.mono (h : s.HasHome id) (grown : s.clouds <+: t.clouds) : t.HasHome id := by
  obtain ⟨cloud, member, home⟩ := h
  exact ⟨cloud, grown.subset member, home⟩

/-- Where at most one cloud is private, the one with this id is the only one. -/
theorem SingleHome.eq_singleton (h : s.SingleHome) (home : s.HasHome id) :
    id ≠ "" ∧ ∃ cloud, s.privateClouds = [cloud] ∧ cloud.id = some id := by
  obtain ⟨cloud, member, isPrivate, named⟩ := home
  have present : cloud ∈ s.privateClouds := List.mem_filter.mpr ⟨member, isPrivate⟩
  obtain ⟨only, alone⟩ := List.length_eq_one_iff.mp
    (Nat.le_antisymm h.single (List.length_pos_of_mem present))
  rw [alone] at present
  obtain rfl := List.mem_singleton.mp present
  refine ⟨?_, cloud, alone, named⟩
  rintro rfl
  have hasId := h.named cloud member
  simp [CloudRecord.hasId, named] at hasId

/-- A record without an id that is put in leaves every cloud with an id. -/
theorem hasId_seeded {seeds : List Seed} (idless : ∀ r ∈ seeds, r.id = none) :
    ∀ cloud ∈ (seeded seeds).clouds, cloud.hasId = true := by
  have start : ∀ cloud ∈ ({} : Store).clouds, cloud.hasId = true :=
    fun _ member => absurd member List.not_mem_nil
  unfold seeded
  generalize ({} : Store) = s at start
  induction seeds generalizing s with
  | nil => exact start
  | cons r rest ih =>
      refine ih (fun q member => idless q (List.mem_cons_of_mem r member)) (s.seed r) ?_
      have unnamed := idless r List.mem_cons_self
      cases r with
      | cluster r =>
          replace unnamed : r.id = none := unnamed
          simp only [seed, insertCluster, unnamed]
          exact start
      | cloud r =>
          replace unnamed : r.id = none := unnamed
          simp only [seed, insertCloud, unnamed]
          intro cloud member
          rcases List.mem_append.mp member with old | new
          · exact start cloud old
          · rw [List.mem_singleton.mp new]
            exact hasId_of_drawn rfl

end Inventory.Store

namespace Registration

section

variable {s t : Store} {step : Step} {steps : List Step} {scope : Scope} {id : String}
variable {configured : Option String}

/-- The call that a step makes creates a cloud. -/
def Step.CreatesCloud : Step → Prop
  | .call _ (.createCloud _) _ => True
  | _ => False

/-! ## What steps do to clouds -/

theorem Reacts.clouds_prefix (h : Reacts s step t) : s.clouds <+: t.clouds := by
  cases h with
  | answered effect | unacknowledged effect => exact effect.clouds_prefix
  | failed | now | pause => exact List.prefix_refl _

theorem clouds_prefix_of_along (along : Along Reacts s steps t) : s.clouds <+: t.clouds := by
  have grows : Throughout Reacts (fun u => s.clouds <+: u.clouds) s steps :=
    Throughout.of_keeps (fun _ _ _ _ grown first => grown.trans first.clouds_prefix)
      (List.prefix_refl _)
  exact grows.last along

/-- A call keeps the private cloud single when it creates one only where there is none. -/
theorem effect_singleHome {call : Call} {a : call.Answer} (effect : s.Effect call a t)
    (absent : (∃ cloud, call = .createCloud cloud) → privateCloud? s.clouds = none)
    (single : s.SingleHome) : t.SingleHome := by
  cases effect with
  | cloudCreated =>
      exact single.append rfl (Store.hasId_of_drawn rfl) fun _ =>
        single.privateClouds_eq_nil (absent ⟨_, rfl⟩)
  | _ => exact single.of_clouds rfl

/-- It does so also when the creation is reported as a failure. -/
theorem Reacts.singleHome (h : Reacts s step t)
    (absent : step.CreatesCloud → privateCloud? s.clouds = none) (single : s.SingleHome) :
    t.SingleHome := by
  cases h with
  | answered effect | unacknowledged effect =>
      refine effect_singleHome effect ?_ single
      rintro ⟨cloud, rfl⟩
      exact absent trivial
  | failed | now | pause => exact single

/-- Registrations, for whichever identity, create clouds only where there is no private one. -/
theorem invariant_singleHome : Invariant "" Store.SingleHome := by
  refine ⟨fun nonempty => absurd rfl nonempty, ?_⟩
  intro s step t single advances h
  refine h.singleHome (fun creates => ?_) single
  cases step with
  | call scope call answer =>
      cases call with
      | createCloud => exact advances.2
      | _ => exact creates.elim
  | now | pause => exact creates.elim

theorem throughout_of_not_createsCloud (single : s.SingleHome)
    (spares : ∀ step ∈ steps, ¬ step.CreatesCloud) :
    Throughout Reacts Store.SingleHome s steps := by
  refine Throughout.of_keeps (fun s step t member single first => ?_) single
  exact first.singleHome (fun creates => absurd creates (spares step member)) single

/-! ## Errands -/

/-- What is yielded where no cloud is configured is the id of the private cloud. -/
theorem CloudPath.homeId? (free : configuredId? configured = none)
    (path : CloudPath scope configured steps (.ok id)) (along : Along Reacts s steps t) :
    t.homeId? = some id := by
  cases path with
  | configured given => cases free.symm.trans given
  | @found _ cloud _ present =>
      have first := along_singleton_iff.mp along
      obtain ⟨rfl, rfl⟩ := first.clouds_listed
      have shown := List.find?_some present
      cases named : cloud.id with
      | none => simp [CloudRecord.hasId, named] at shown
      | some id => rw [Store.homeId?, present, Option.bind_some, named]; rfl
  | created _ absent named =>
      simp only [along_cons_iff, along_nil_iff] at along
      obtain ⟨u, first, _, second, rfl⟩ := along
      obtain ⟨rfl, rfl⟩ := first.clouds_listed
      cases second with
      | answered effect =>
          cases effect with
          | cloudCreated =>
              have same := (Option.filter_eq_some_iff.mp named).1
              have missed : u.clouds.find? (fun c => c.isPrivate && c.hasId) = none := absent
              rw [Store.homeId?, privateCloud?, List.find?_append, missed, Option.none_or,
                List.find?_cons_of_pos]
              · exact same
              · exact Bool.and_eq_true_iff.mpr ⟨rfl, Store.hasId_of_drawn rfl⟩

/-- A registration resolves the cloud, and creates none later. -/
theorem RegistrationPath.resolves_first {cluster : LocalCluster} {settings : Settings}
    {out : Except Failure String} (path : RegistrationPath cluster settings steps out) :
    ∃ first rest, steps = first ++ rest ∧
      (first = [] ∨ ∃ scope result, CloudPath scope settings.cloudId first result) ∧
      ∀ step ∈ rest, ¬ step.CreatesCloud := by
  have later {rest : List Step} {operations : List (Option String)}
      (part : (rest.map Step.operation?).Sublist operations)
      (other : some "CreateCloud" ∉ operations) : ∀ step ∈ rest, ¬ step.CreatesCloud := by
    intro step member creates
    have named : step.operation? = some "CreateCloud" := by
      cases step with
      | call scope call answer =>
          cases call with
          | createCloud => rfl
          | _ => exact creates.elim
      | now | pause => exact creates.elim
    exact other (part.subset (named ▸ List.mem_map_of_mem member))
  have nothing : ∀ step ∈ ([] : List Step), ¬ step.CreatesCloud :=
    fun _ member => absurd member List.not_mem_nil
  cases path with
  | unacting | unidentified => exact ⟨[], [], rfl, .inl rfl, nothing⟩
  | homeless _ _ cloud =>
      exact ⟨steps, [], (List.append_nil steps).symm, .inr ⟨_, _, cloud⟩, nothing⟩
  | unresolved _ _ cloud record | registered _ _ cloud record | unversioned _ _ cloud record =>
      exact ⟨_, _, rfl, .inr ⟨_, _, cloud⟩, later record.operations (by decide)⟩
  | promoted _ _ cloud record _ _ promotion =>
      refine ⟨_, _, rfl, .inr ⟨_, _, cloud⟩, List.forall_mem_append.mpr ⟨?_, ?_⟩⟩
      · exact later record.operations (by decide)
      · exact later promotion.operations (by decide)

theorem RegistrationPath.singleHome {cluster : LocalCluster} {settings : Settings}
    {out : Except Failure String} (single : s.SingleHome)
    (path : RegistrationPath cluster settings steps out) :
    Throughout Reacts Store.SingleHome s steps := by
  obtain ⟨first, rest, rfl, resolves, spares⟩ := path.resolves_first
  have start : Throughout Reacts Store.SingleHome s first := by
    rcases resolves with rfl | ⟨scope, result, cloud⟩
    · exact Throughout.nil_iff.mpr single
    · exact cloud.throughout invariant_singleHome single
  exact start.append fun t along => throughout_of_not_createsCloud (start.last along) spares

/-- What is done about a cloud: it is resolved, by itself or as part of a registration. -/
inductive Errand where
  | resolve (scope : Scope) (configured : Option String)
  | register (cluster : LocalCluster) (s : Settings)

namespace Errand

def procedure : Errand → Procedure String
  | resolve scope configured => resolveCloud scope configured
  | register cluster s => Registration.register cluster s

/-- The private cloud is resolved, and its id is yielded. -/
def SeeksHome : Errand → Prop
  | resolve _ configured => configuredId? configured = none
  | register _ _ => False

/-- Errands that follow each other, and what each of them yields. -/
def inTurn : List Errand → Flow (List (Except Failure String))
  | [] => .done []
  | errand :: rest =>
    errand.procedure.run.bind fun result =>
      (inTurn rest).bind fun results => .done (result :: results)

theorem singleHome {errand : Errand} {out : Except Failure String} (single : s.SingleHome)
    (takes : errand.procedure.run.Takes steps out) :
    Throughout Reacts Store.SingleHome s steps := by
  cases errand with
  | resolve scope configured =>
      exact (resolveCloud_takes takes).throughout invariant_singleHome single
  | register cluster settings => exact (register_takes takes).singleHome single

theorem hasHome {errand : Errand} (seeks : errand.SeeksHome)
    (takes : errand.procedure.run.Takes steps (.ok id)) (along : Along Reacts s steps t) :
    t.HasHome id := by
  cases errand with
  | resolve scope configured =>
      exact Store.hasHome_of_homeId? ((resolveCloud_takes takes).homeId? seeks along)
  | register => exact seeks.elim

/-- The errand has yielded the id of the private cloud, if it has yielded one. -/
def YieldsHome (s : Store) (errand : Errand) (result : Except Failure String) : Prop :=
  errand.SeeksHome → ∀ id, result = .ok id → s.HasHome id

/-- Errands keep the private cloud single, and what they have yielded stays its id. -/
theorem inTurn_singleHome {errands : List Errand} {results : List (Except Failure String)}
    (single : s.SingleHome) (takes : (inTurn errands).Takes steps results) :
    Throughout Reacts Store.SingleHome s steps ∧
      ∀ t, Along Reacts s steps t → List.Forall₂ (YieldsHome t) errands results := by
  induction errands generalizing s steps results with
  | nil =>
      obtain ⟨rfl, rfl⟩ := Flow.takes_done_iff.mp takes
      exact ⟨Throughout.nil_iff.mpr single, fun _ _ => .nil⟩
  | cons errand rest ih =>
      obtain ⟨first, result, behind, rfl, head, takes⟩ := takes.of_bind
      obtain ⟨second, results, last, rfl, tail, takes⟩ := takes.of_bind
      obtain ⟨rfl, rfl⟩ := Flow.takes_done_iff.mp takes
      rw [List.append_nil]
      have start := errand.singleHome single head
      refine ⟨start.append fun u along => (ih (start.last along) tail).1, ?_⟩
      intro t along
      obtain ⟨u, left, right⟩ := along_append_iff.mp along
      refine .cons ?_ ((ih (start.last left) tail).2 t right)
      rintro seeks id rfl
      exact (hasHome seeks head left).mono (clouds_prefix_of_along right)

end Errand

theorem Reacts.eq_of_getCloud {answer : Except Failure CloudRecord}
    (h : Reacts s (.call scope (.getCloud id) answer) t) : t = s := by
  cases h with
  | answered effect | unacknowledged effect =>
      cases effect
      rfl
  | failed => rfl

/-- A cloud that is configured is only looked for. -/
theorem CloudPath.unchanged {out : Except Failure String}
    (given : configuredId? configured = some id) (path : CloudPath scope configured steps out) :
    Throughout Reacts (fun u => u = s) s steps := by
  cases path with
  | missing | configured =>
      rw [Throughout.cons_iff]
      exact ⟨rfl, fun t first => Throughout.nil_iff.mpr first.eq_of_getCloud⟩
  | unlisted free | found free | uncreated free | unnamed free | created free =>
      cases given.symm.trans free

end

/-- The private cloud is one. Start with an inventory that records without ids have been put in,
with one private cloud at most. Resolve clouds and register clusters one after the other, any
number of times, with any clouds configured, for any identities, and with any mishap at any call.
At no point is there more than one private cloud. Wherever the private cloud has been resolved,
its id, which is not empty, has been yielded; and as the cloud is still the only one in the end,
it has been the same each time. A configured cloud is resolved without a change to anything that
the inventory holds. -/
theorem private_cloud_is_single (pacing : Pacing) (mishap : Nat → Mishap) (timeline : Timeline)
    (seeds : List Seed) (errands : List Errand) (idless : ∀ r ∈ seeds, r.id = none)
    (single : (Store.seeded seeds).privateClouds.length ≤ 1) :
    let handler := disturbed pacing mishap
    let start := (0, Store.seeded seeds, timeline)
    let after := (Errand.inTurn errands).run handler start
    (∀ state ∈ (Errand.inTurn errands).states handler start,
      state.2.1.privateClouds.length ≤ 1) ∧
    List.Forall₂ (fun errand result => errand.SeeksHome → ∀ id, result = .ok id →
      id ≠ "" ∧ ∃ cloud, after.2.2.1.privateClouds = [cloud] ∧ cloud.id = some id)
      errands after.1 ∧
    ∀ scope id before, id ≠ "" →
      ∀ state ∈ (resolveCloud scope (some id)).run.states handler before,
        state.2.1.contents = before.2.1.contents := by
  intro handler start after
  let view (state : Nat × Store × Timeline) : Store := state.2.1.contents
  have home : (view start).SingleHome := ⟨Store.hasId_seeded idless, single⟩
  refine ⟨fun state member => ?_, ?_, fun scope id before nonempty state member => ?_⟩
  · have kept : (view state).SingleHome := by
      refine Flow.of_mem_states (I := fun state => (view state).SingleHome)
        (fun steps takes => ?_) member
      exact Throughout.of_map view (fun _ _ _ => moves_disturbed)
        (Errand.inTurn_singleHome home takes).1
    exact kept.single
  · obtain ⟨steps, takes, moves, -⟩ := Flow.exists_takes_run handler (Errand.inTurn errands) start
    have along : Along Reacts (view start) steps (view after.2) :=
      moves.map view fun _ _ _ => moves_disturbed
    obtain ⟨throughout, yields⟩ := Errand.inTurn_singleHome home takes
    have kept : (view after.2).SingleHome := throughout.last along
    refine (yields _ along).imp fun errand result yielded seeks id succeeded => ?_
    exact kept.eq_singleton (yielded seeks id succeeded)
  · have given : configuredId? (some id) = some id := by simp [configuredId?, nonempty]
    refine Flow.of_mem_states (I := fun state => view state = view before)
      (fun steps takes => ?_) member
    exact Throughout.of_map view (fun _ _ _ => moves_disturbed)
      ((resolveCloud_takes takes).unchanged given)

/-- The answer to the creation of the cloud is lost, next to a private cloud of another name. -/
theorem unacknowledged_cloud_is_single :
    let seeds : List Seed := [.cloud { name := "legacy", kind := .known .privateCloud }]
    let errands : List Errand := [.resolve ⟨"account", "token"⟩ none,
      .register ⟨fun _ => .ok "token", .ok {}, .ok "identity"⟩ { account := "account" },
      .resolve ⟨"account", "token"⟩ (some "")]
    let mishap (n : Nat) : Mishap :=
      if n = 1 then .unacknowledged (.refused .accountMissing) else .none
    ((∀ r ∈ seeds, r.id = none) ∧ (Store.seeded seeds).privateClouds.length ≤ 1) ∧
    let handler := disturbed .recording mishap
    let start := (0, Store.seeded seeds, ({} : Timeline))
    let after := (Errand.inTurn errands).run handler start
    (∀ state ∈ (Errand.inTurn errands).states handler start,
      state.2.1.privateClouds.length ≤ 1) ∧
    List.Forall₂ (fun errand result => errand.SeeksHome → ∀ id, result = .ok id →
      id ≠ "" ∧ ∃ cloud, after.2.2.1.privateClouds = [cloud] ∧ cloud.id = some id)
      errands after.1 ∧
    ∀ scope id before, id ≠ "" →
      ∀ state ∈ (resolveCloud scope (some id)).run.states handler before,
        state.2.1.contents = before.2.1.contents := by
  intro seeds errands mishap
  have idless : ∀ r ∈ seeds, r.id = none := by decide
  have single : (Store.seeded seeds).privateClouds.length ≤ 1 := by decide +kernel
  exact ⟨⟨idless, single⟩,
    private_cloud_is_single .recording mishap {} seeds errands idless single⟩

end Registration

end Enrollment
