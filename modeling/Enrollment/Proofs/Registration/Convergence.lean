import Enrollment.Proofs.Registration.Resumption

/-!
# Interrupted registrations converge

A registration may be cut short at any call, before or after the inventory has carried the
call out, and nothing is undone then. Whoever registers next for the same identity goes on
from what is there. Over all attempts, however many there are, no more than one cluster and
one cloud are created; all that succeed yield one id; and an attempt in which nothing fails
succeeds and settles the record with this id.
-/

namespace Enrollment.Registration

open Inventory

/-! ## A disturbed inventory -/

/-- What may happen to a call: nothing, or it is lost before it takes effect, or it takes
effect and is reported as a failure all the same. -/
inductive Mishap where
  | none
  | lost (reported : Failure)
  | unacknowledged (reported : Failure)

/-- The inventory in memory, with a mishap for each call: `mishap n` befalls the call with
number `n`. -/
def disturbed (pacing : Pacing) (mishap : Nat → Mishap) :
    Flow.Handler (Nat × Store × Timeline) where
  call scope c := fun (n, state) =>
    let (answer, carriedOut) := (inMemory pacing).call scope c state
    match mishap n with
    | .none => (answer, n + 1, carriedOut)
    | .lost reported => (.error reported, n + 1, state)
    | .unacknowledged reported => (.error reported, n + 1, carriedOut)
  now s := s.2.2.now
  pause d s := (s.1, s.2.1, s.2.2.pause pacing d)

/-- A call that is reported as a failure has been carried out, or has failed. -/
theorem Reacts.reported {s t : Store} {scope : Scope} {call : Call}
    {answer : Except Failure call.Answer} (h : Reacts s (.call scope call answer) t)
    (reported : Failure) : Reacts s (.call scope call (.error reported)) t := by
  cases h with
  | answered effect | unacknowledged effect => exact .unacknowledged effect
  | failed => exact .failed

theorem moves_disturbed {pacing : Pacing} {mishap : Nat → Mishap}
    {s t : Nat × Store × Timeline} {step : Step}
    (h : (disturbed pacing mishap).Moves s step t) :
    Reacts s.2.1.contents step t.2.1.contents := by
  cases h with
  | call scope c =>
      obtain ⟨n, store, timeline⟩ := s
      have reaction := reacts_perform scope c store
      simp only [disturbed]
      cases mishap n with
      | none => exact reaction
      | lost reported => exact .failed
      | unacknowledged reported => exact reaction.reported reported
  | now => exact .now
  | pause => exact .pause

/-! ## Attempts -/

/-- A cluster that registers itself, with its settings. -/
structure Registrant where
  cluster : LocalCluster
  settings : Settings

/-- The registrant has this identity if any, and nothing is configured for it. -/
structure Registrant.IsFor (identity : String) (x : Registrant) : Prop where
  theirs : ∀ self, x.cluster.identity = .ok self → self = identity
  homeless : configuredId? x.settings.cloudId = none
  free : configuredId? x.settings.clusterId = none

/-- Registrations that follow each other, and what each of them yields. -/
def registrations : List Registrant → Flow (List (Except Failure String))
  | [] => .done []
  | x :: rest =>
    (register x.cluster x.settings).run.bind fun result =>
      (registrations rest).bind fun results => .done (result :: results)

section

variable {identity : String} {s t : Store} {steps : List Step}

/-- Registrations go on from each other, and what they yield is held in the end. -/
theorem registrations_resume {registrants : List Registrant}
    {results : List (Except Failure String)} (resumable : s.Resumable identity)
    (theirs : ∀ x ∈ registrants, x.IsFor identity)
    (takes : (registrations registrants).Takes steps results) (along : Along Reacts s steps t) :
    Resumes identity s t ∧ ∀ id, .ok id ∈ results → t.Holds identity id := by
  induction registrants generalizing s steps results with
  | nil =>
      obtain ⟨rfl, rfl⟩ := Flow.takes_done_iff.mp takes
      obtain rfl := along_nil_iff.mp along
      exact ⟨⟨resumable, .refl identity s⟩, fun id member => absurd member List.not_mem_nil⟩
  | cons x rest ih =>
      obtain ⟨first, result, behind, rfl, head, takes⟩ := takes.of_bind
      obtain ⟨second, results, last, rfl, tail, takes⟩ := takes.of_bind
      obtain ⟨rfl, rfl⟩ := Flow.takes_done_iff.mp takes
      rw [List.append_nil] at along
      obtain ⟨u, left, right⟩ := along_append_iff.mp along
      have own := theirs x List.mem_cons_self
      have path := register_takes head
      have resumed := (path.throughout (invariant_resumes identity s)
        ⟨resumable, .refl identity s⟩ own.theirs).last left
      obtain ⟨later, held⟩ := ih resumed.1
        (fun y member => theirs y (List.mem_cons_of_mem x member)) tail right
      refine ⟨⟨later.1, resumed.2.trans later.2⟩, ?_⟩
      intro id member
      rcases List.mem_cons.mp member with rfl | member
      · exact later.2.holds (path.holds resumable own.theirs own.free left)
      · exact held id member

end

/-- What registrations leave in an inventory, whatever befalls their calls. -/
theorem disturbed_resumes (pacing : Pacing) (mishap : Nat → Mishap) (timeline : Timeline)
    {identity : String} {registrants : List Registrant} {start : Store}
    (resumable : start.contents.Resumable identity)
    (theirs : ∀ x ∈ registrants, x.IsFor identity) :
    let after := (registrations registrants).run (disturbed pacing mishap) (0, start, timeline)
    Resumes identity start.contents after.2.2.1.contents ∧
      ∀ id, .ok id ∈ after.1 → after.2.2.1.contents.Holds identity id := by
  obtain ⟨steps, takes, moves, -⟩ := Flow.exists_takes_run (disturbed pacing mishap)
    (registrations registrants) (0, start, timeline)
  have along := moves.map (fun state => state.2.1.contents) fun _ _ _ => moves_disturbed
  exact registrations_resume resumable theirs takes along

/-- What a registration leaves in an inventory that answers every call. -/
theorem answered_settles (pacing : Pacing) (timeline : Timeline) {identity token : String}
    {version : ClusterVersion} {last : Registrant} {start : Store}
    (resumable : start.contents.Resumable identity) (nonempty : identity ≠ "")
    (own : last.IsFor identity) (account : last.settings.account ≠ "")
    (secret : last.cluster.apiToken last.settings.tokenRef = .ok token)
    (self : last.cluster.identity = .ok identity) (known : last.cluster.version = .ok version) :
    let after := (register last.cluster last.settings).run.run (inMemory pacing)
      ({ start with unavailable := false }, timeline)
    Resumes identity start.contents after.2.1.contents ∧
      ∃ id, after.1 = .ok id ∧ Settled identity id after.2.1.contents := by
  obtain ⟨steps, takes, moves, -⟩ := Flow.exists_takes_run (inMemory pacing)
    (register last.cluster last.settings).run ({ start with unavailable := false }, timeline)
  have along := (along_answers rfl moves).1
  have path := register_takes takes
  have acting := knownScope_of_token account secret
  refine ⟨?_, path.settled resumable nonempty acting self known own.homeless own.free along⟩
  exact (path.throughout (invariant_resumes identity _) ⟨resumable, .refl identity _⟩
    own.theirs).last (Answers.along_reacts along)

/-- What a series of registrations yields, what the last one yields, and the store they leave. -/
structure Outcome where
  results : List (Except Failure String)
  result : Except Failure String
  store : Store

/-- Registrations with mishaps, and then one more, with the store in reach and no mishaps. -/
def outcome (pacing : Pacing) (mishap : Nat → Mishap) (registrants : List Registrant)
    (last : Registrant) (start : Store) (timeline : Timeline) : Outcome :=
  let during := (registrations registrants).run (disturbed pacing mishap) (0, start, timeline)
  let after := (register last.cluster last.settings).run.run (inMemory pacing)
    ({ during.2.2.1 with unavailable := false }, during.2.2.2)
  ⟨during.1, after.1, after.2.1⟩

/-- At most one cluster has been created, none if one was tracked, and at most one cloud. The
last registration yields an id, and every other that succeeded has yielded it too. The only
record that is tracked has this id, and is installed and managed. -/
structure Outcome.Converges (identity : String) (start : Store) (o : Outcome) : Prop where
  created : ∃ writes, o.store.writes = start.writes ++ writes ∧
    writes.count .createCluster ≤ 1 ∧
    ((∃ r ∈ start.clusters, r.isTrackedFor identity = true) →
      writes.count .createCluster = 0) ∧ writes.count .createCloud ≤ 1
  settled : ∃ id, o.result = .ok id ∧ (∀ other, .ok other ∈ o.results → other = id) ∧
    ∃ r, o.store.clusters.filter (·.isTrackedFor identity) = [r] ∧ r.id = some id ∧
      r.install = .known .installed ∧ r.managedState = .known .managed

/-- Interrupted registrations resume and converge. Take a store in which ids are distinct and
not to be drawn again, and in which one record at most is tracked for an identity, with an id
and fit to be gone on with. Let anyone register for the identity, any number of times, with
any mishap at any call; then let one register who is told all that is needed, with nothing
failing. -/
theorem interrupted_registrations_converge (pacing : Pacing) (mishap : Nat → Mishap)
    (start : Store) (timeline : Timeline) (identity token : String) (version : ClusterVersion)
    (registrants : List Registrant) (last : Registrant) (nonempty : identity ≠ "")
    (named : start.WellNamed)
    (single : (start.clusters.filter (·.isTrackedFor identity)).length ≤ 1)
    (fit : ∀ r ∈ start.clusters, r.isTrackedFor identity = true → r.idText ≠ "" ∧ r.IsFit identity)
    (theirs : ∀ x ∈ registrants, x.IsFor identity) (own : last.IsFor identity)
    (account : last.settings.account ≠ "")
    (secret : last.cluster.apiToken last.settings.tokenRef = .ok token)
    (self : last.cluster.identity = .ok identity) (known : last.cluster.version = .ok version) :
    (outcome pacing mishap registrants last start timeline).Converges identity start := by
  have resumable : start.contents.Resumable identity :=
    ⟨named.of_ids rfl (Nat.le_refl _), named.length_tracked.mp single, fit⟩
  obtain ⟨resumed, held⟩ := disturbed_resumes pacing mishap timeline resumable theirs
  obtain ⟨finished, id, result, settled⟩ := answered_settles pacing _ resumed.1 nonempty own
    account secret self known
  refine ⟨(resumed.2.trans finished.2).creations, id, result, fun other member => ?_, ?_⟩
  · exact finished.1.holds_unique (finished.2.holds (held other member)) settled.holds
  · exact settled.filter finished.1

/-- A registrant with nothing configured, that finds out all it needs to know. -/
def Registrant.plain (identity : String) : Registrant :=
  ⟨⟨fun _ => .ok "token", .ok {}, .ok identity⟩, { account := "account" }⟩

/-- The creation of the cluster is carried out, and reported as a failure. -/
theorem unacknowledged_creation_converges :
    (outcome .recording (fun n => if n = 3 then .unacknowledged (.refused .accountMissing)
      else .none) [.plain "identity"] (.plain "identity") {} {}).Converges "identity" {} := by
  have own : (Registrant.plain "identity").IsFor "identity" :=
    ⟨fun _ same => (Except.ok.inj same).symm, rfl, rfl⟩
  refine interrupted_registrations_converge .recording _ {} {} "identity" "token" {} _ _
    (by decide) ⟨List.nodup_nil, fun _ _ => List.not_mem_nil⟩ (by decide) ?_ ?_ own (by decide)
    rfl rfl rfl
  · exact fun r member => absurd member List.not_mem_nil
  · exact fun x member => List.mem_singleton.mp member ▸ own

end Enrollment.Registration
