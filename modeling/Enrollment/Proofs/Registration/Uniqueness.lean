import Enrollment.Proofs.Registration.Course
import Enrollment.Proofs.Registration.Operation

/-!
# One tracked record for each cluster

However operations follow each other on an inventory, and wherever the inventory is out of
reach meanwhile, at most one record is tracked for an identity. A store is `Orderly` when this
holds and its ids are distinct. Registrations keep it so because they advance their identity,
and other operations because they neither create clusters nor promote them.
-/

namespace Enrollment.Registration

open Inventory

/-- A well-named store in which an identity is tracked by one record at most. -/
structure Orderly (s : Store) : Prop where
  named : s.WellNamed
  sole : ∀ identity, identity ≠ "" → s.Sole identity

/-- What a step must find in the store in order not to track a second record. -/
def Step.Harmless (s : Store) : Step → Prop
  | .call _ c _ => c.Harmless s
  | _ => True

section

variable {s t : Store} {step : Step} {steps : List Step} {scope : Scope}

theorem harmless_of_quiet (quiet : Quiet step) : step.Harmless s := by
  cases step with
  | call scope c answer => cases c <;> first | exact trivial | exact quiet.elim
  | now | pause => trivial

/-- A harmless step keeps a store orderly, whatever becomes of it. -/
theorem Reacts.orderly (h : Reacts s step t) (harmless : step.Harmless s) (orderly : Orderly s) :
    Orderly t := by
  cases h with
  | answered effect | unacknowledged effect =>
      refine ⟨effect.wellNamed orderly.named, ?_⟩
      intro identity nonempty
      exact effect.sole harmless (orderly.sole identity nonempty)
  | failed | now | pause => exact orderly

theorem throughout_of_quiet (orderly : Orderly s) (quiet : ∀ step ∈ steps, Quiet step) :
    Throughout Reacts Orderly s steps := by
  refine Throughout.of_keeps (fun s step t member orderly first => ?_) orderly
  exact first.orderly (harmless_of_quiet (quiet step member)) orderly

/-- Registrations keep a store orderly. -/
theorem invariant_orderly (identity : String) : Invariant identity Orderly := by
  constructor
  · intro nonempty s orderly
    exact orderly.sole identity nonempty
  · intro s step t orderly advances h
    cases step with
    | call scope c answer => exact h.orderly (Store.harmless_of_advances advances) orderly
    | now | pause => exact h.orderly trivial orderly

theorem RegistrationPath.orderly {cluster : LocalCluster} {settings : Settings}
    {out : Except Failure String} (orderly : Orderly s)
    (path : RegistrationPath cluster settings steps out) : Throughout Reacts Orderly s steps := by
  cases self : cluster.identity with
  | error fault =>
      apply path.throughout (invariant_orderly "") orderly
      intro identity same
      cases self.symm.trans same
  | ok identity =>
      apply path.throughout (invariant_orderly identity) orderly
      intro identity' same
      cases self.symm.trans same
      rfl

theorem Operation.orderly {operation : Operation} {a : Unit} (orderly : Orderly s)
    (takes : operation.flow.Takes steps a) : Throughout Reacts Orderly s steps := by
  cases operation with
  | register cluster settings =>
      obtain ⟨first, out, rest, rfl, head, tail⟩ := takes.of_bind
      obtain ⟨rfl, -⟩ := Flow.takes_done_iff.mp tail
      rw [List.append_nil]
      exact (register_takes head).orderly orderly
  | unregister cluster settings poll clusterId =>
      apply throughout_of_quiet orderly
      have quiet := unregister_quiet cluster settings poll clusterId
      exact Flow.only_bind quiet (fun _ => Flow.only_done ()) steps a takes
  | isManaged cluster settings clusterId =>
      apply throughout_of_quiet orderly
      have quiet := isManaged_quiet cluster settings clusterId
      exact Flow.only_bind quiet (fun _ => Flow.only_done ()) steps a takes

/-- Operations that follow each other keep an orderly store orderly. -/
theorem inTurn_orderly {operations : List Operation} {a : Unit} (orderly : Orderly s)
    (takes : (Operation.inTurn operations).Takes steps a) :
    Throughout Reacts Orderly s steps := by
  induction operations generalizing s steps with
  | nil =>
      obtain ⟨rfl, -⟩ := Flow.takes_done_iff.mp takes
      exact Throughout.nil_iff.mpr orderly
  | cons operation rest ih =>
      obtain ⟨first, _, behind, rfl, head, tail⟩ := takes.of_bind
      have start := Operation.orderly orderly head
      exact start.append fun t along => ih (start.last along) tail

end

/-! ## An inventory that is out of reach at times -/

/-- The inventory in memory, which is made unavailable or available again before each call:
`off n` says which before the call with number `n`. -/
def switched (pacing : Pacing) (off : Nat → Bool) : Flow.Handler (Nat × Store × Timeline) where
  call scope c := fun (n, store, timeline) =>
    let (answer, state) :=
      (inMemory pacing).call scope c ({ store with unavailable := off n }, timeline)
    (answer, n + 1, state)
  now s := s.2.2.now
  pause d s := (s.1, s.2.1, s.2.2.pause pacing d)

theorem moves_switched {pacing : Pacing} {off : Nat → Bool} {s t : Nat × Store × Timeline}
    {step : Step} (h : (switched pacing off).Moves s step t) :
    Reacts s.2.1.contents step t.2.1.contents := by
  cases h with
  | call scope c =>
      obtain ⟨n, store, timeline⟩ := s
      exact reacts_perform scope c { store with unavailable := off n }
  | now => exact .now
  | pause => exact .pause

/-- At most one record is tracked for each cluster, in every state that operations of any kind
pass through when they follow each other, wherever the inventory is out of reach meanwhile. -/
theorem operations_track_one_record (pacing : Pacing) (off : Nat → Bool) (timeline : Timeline)
    (seeds : List Seed) (operations : List Operation) (idless : ∀ r ∈ seeds, r.id = none)
    (single : (Store.seeded seeds).SingleTracked) :
    ∀ state ∈ (Operation.inTurn operations).states (switched pacing off)
      (0, Store.seeded seeds, timeline), state.2.1.SingleTracked := by
  intro state member
  let view (state : Nat × Store × Timeline) : Store := state.2.1.contents
  have named := Store.wellNamed_seeded idless
  have start : Orderly (view (0, Store.seeded seeds, timeline)) := by
    refine ⟨named.of_ids rfl (Nat.le_refl _), ?_⟩
    intro identity nonempty
    exact named.length_tracked.mp (single identity nonempty)
  have orderly : Orderly (view state) := by
    refine Flow.of_mem_states (I := fun state => Orderly (view state)) (fun steps takes => ?_)
      member
    exact Throughout.of_map view (fun _ _ _ => moves_switched) (inTurn_orderly start takes)
  intro identity nonempty
  exact orderly.named.length_tracked.mpr (orderly.sole identity nonempty)

/-- A registration is cut off and repeated, next to a record that no connector tracks. -/
theorem seeded_operations_track_one_record :
    (Store.seeded [.cluster { identity := "identity" },
      .cluster { identity := "identity", install := .known .pending }]).SingleTracked ∧
    ∀ state ∈ (Operation.inTurn
      [.register ⟨fun _ => .ok "token", .ok {}, .ok "identity"⟩ { account := "account" },
        .register ⟨fun _ => .ok "token", .ok {}, .ok "identity"⟩ { account := "account" }]).states
      (switched .recording (· = 2))
      (0, Store.seeded [.cluster { identity := "identity" },
        .cluster { identity := "identity", install := .known .pending }], {}),
      state.2.1.SingleTracked := by
  have single : (Store.seeded [.cluster { identity := "identity" },
      .cluster { identity := "identity", install := .known .pending }]).SingleTracked := by
    intro identity nonempty
    show (List.filter _ (_ :: [_])).length ≤ 1
    rw [List.filter_cons_of_neg fun tracked => (ClusterRecord.isTrackedFor_iff.mp tracked).2 rfl]
    exact List.length_filter_le _ _
  exact ⟨single, operations_track_one_record .recording _ {} _ _ (by decide) single⟩

end Enrollment.Registration
