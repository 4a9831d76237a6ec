import Enrollment.Proofs.Flow.Steps
import Mathlib.Logic.Function.Basic

/-!
# Flows that take turns

Many flows can work on one state, one step at a time and in any order. What one of them has read
may be out of date when it goes on, because others have had their turns. `Sharing` says when this
does not matter: every party has a part of the state to itself, what it sees of that part tells
which calls it may make, and such calls leave the parts of all others alone. A flow that `Abides`
by this is followed on its own part, as if nothing happened between its steps.
-/

namespace Enrollment.Registration

open Inventory

/-! ## Turns -/

namespace Flow

section

variable {α ρ ι : Type} {h : Handler ρ} {x : Flow α}

/-- The value of a flow that is done. -/
def result? : Flow α → Option α
  | done a => some a
  | _ => none

/-- The call that a flow goes on with, if its next step is a call. -/
def upcoming? : Flow α → Option Call
  | call _ c _ => some c
  | _ => none

theorem eq_done_of_result? {a : α} (finished : x.result? = some a) : x = .done a := by
  cases x <;> cases finished
  rfl

theorem eq_call_of_upcoming? {c : Call} (coming : x.upcoming? = some c) :
    ∃ scope next, x = .call scope c next := by
  cases x <;> cases coming
  exact ⟨_, _, rfl⟩

/-- One step of a flow. When it is done, nothing happens any more. -/
def advance (h : Handler ρ) : Flow α → ρ → Flow α × ρ
  | done a, s => (done a, s)
  | call scope c next, s => (next (h.call scope c s).1, (h.call scope c s).2)
  | now next, s => (next (h.now s), s)
  | pause d next, s => (next (), h.pause d s)

/-- A step is the beginning of a run. -/
theorem run_advance (h : Handler ρ) (x : Flow α) (s : ρ) :
    (x.advance h s).1.run h (x.advance h s).2 = x.run h s := by
  cases x <;> rfl

variable [DecidableEq ι]

/-- The flows and the state when each turn has been taken, by one step of the flow whose turn it
is. -/
def interleaved (h : Handler ρ) : List ι → (ι → Flow α) → ρ → (ι → Flow α) × ρ
  | [], flows, s => (flows, s)
  | i :: turns, flows, s =>
    interleaved h turns (Function.update flows i ((flows i).advance h s).1)
      ((flows i).advance h s).2

/-- A flow that has all turns to itself runs to its end. -/
theorem exists_interleaved_run (h : Handler ρ) {flows : ι → Flow α} {i : ι}
    (current : flows i = x) (s : ρ) : ∃ n, interleaved h (List.replicate n i) flows s =
      (Function.update flows i (.done (x.run h s).1), (x.run h s).2) := by
  have onwards {flows : ι → Flow α} {x y : Flow α} {s t : ρ} (current : flows i = x)
      (stepped : x.advance h s = (y, t))
      (later : ∃ n, interleaved h (List.replicate n i) (Function.update flows i y) t =
        (Function.update (Function.update flows i y) i (.done (y.run h t).1), (y.run h t).2)) :
      ∃ n, interleaved h (List.replicate n i) flows s =
        (Function.update flows i (.done (x.run h s).1), (x.run h s).2) := by
    obtain ⟨n, rest⟩ := later
    have same := run_advance h x s
    rw [stepped] at same
    refine ⟨n + 1, ?_⟩
    rw [List.replicate_succ, interleaved, current, stepped, rest, Function.update_idem, same]
  induction x generalizing flows s with
  | done a =>
      refine ⟨0, ?_⟩
      rw [run_done, ← current, Function.update_eq_self]
      rfl
  | call scope c next ih => exact onwards current rfl (ih _ (Function.update_self i _ flows) _)
  | now next ih => exact onwards current rfl (ih _ (Function.update_self i _ flows) _)
  | pause d next ih => exact onwards current rfl (ih _ (Function.update_self i _ flows) _)

end

end Flow

/-! ## Parts of a state -/

/-- The call that a step makes, if it makes one, is as `P` says. -/
def Step.Calls (P : Call → Prop) : Step → Prop
  | .call _ c _ => P c
  | _ => True

/-- How parties share a state. Each has a part of it to itself, and what is there says which calls
it may make. Such calls keep the state sound and leave the parts of all others alone. -/
structure Sharing {σ : Type} (R : σ → Step → σ → Prop) (ι τ : Type) where
  sound : σ → Prop
  part : ι → σ → τ
  may : ι → τ → Call → Prop
  keeps : ∀ i s step t, sound s → step.Calls (may i (part i s)) → R s step t → sound t
  apart : ∀ i j s step t, j ≠ i → sound s → step.Calls (may i (part i s)) → R s step t →
    part j t = part j s

section

variable {α β ρ σ ι τ : Type} {R : σ → Step → σ → Prop} {S : Sharing R ι τ} {i : ι} {v w : τ}

/-- What a party can see of a step: its part of a sound state in front of it and behind it. -/
def Sharing.Sees (S : Sharing R ι τ) (i : ι) (v : τ) (step : Step) (w : τ) : Prop :=
  ∃ s t, S.sound s ∧ R s step t ∧ S.part i s = v ∧ S.part i t = w

namespace Flow

/-- The flow only makes calls that the party may make, and ends as `ends` says, provided that the
party's part of the state is changed by its own steps alone. -/
def Abides (S : Sharing R ι τ) (i : ι) (ends : α → τ → Prop) : Flow α → τ → Prop
  | done a, v => ends a v
  | call scope c next, v =>
    S.may i v c ∧
      ∀ answer w, S.Sees i v (.call scope c answer) w → (next answer).Abides S i ends w
  | now next, v => ∀ shown w, S.Sees i v (.now shown) w → (next shown).Abides S i ends w
  | pause time next, v => ∀ w, S.Sees i v (.pause time) w → (next ()).Abides S i ends w

theorem Abides.mono {x : Flow α} {ends ends' : α → τ → Prop} (h : x.Abides S i ends v)
    (weaken : ∀ a w, ends a w → ends' a w) : x.Abides S i ends' v := by
  induction x generalizing v with
  | done a => exact weaken a v h
  | call scope c next ih => exact ⟨h.1, fun answer w seen => ih answer (h.2 answer w seen)⟩
  | now next ih => exact fun shown w seen => ih shown (h shown w seen)
  | pause time next ih => exact fun w seen => ih () (h w seen)

theorem Abides.bind {x : Flow α} {f : α → Flow β} {ends : β → τ → Prop}
    (first : x.Abides S i (fun a w => (f a).Abides S i ends w) v) :
    (x.bind f).Abides S i ends v := by
  induction x generalizing v with
  | done a => exact first
  | call scope c next ih => exact ⟨first.1, fun answer w seen => ih answer (first.2 answer w seen)⟩
  | now next ih => exact fun shown w seen => ih shown (first shown w seen)
  | pause time next ih => exact fun w seen => ih () (first w seen)

section

variable {h : Handler ρ} {content : ρ → σ} {ends : ι → α → τ → Prop} {s : ρ}

/-- A step of a flow that abides leaves it abiding, and nobody else notices. -/
theorem Abides.advance {x : Flow α} {ends : α → τ → Prop}
    (follow : ∀ s step t, h.Moves s step t → R (content s) step (content t))
    (sound : S.sound (content s)) (abides : x.Abides S i ends (S.part i (content s))) :
    S.sound (content (x.advance h s).2) ∧
      (x.advance h s).1.Abides S i ends (S.part i (content (x.advance h s).2)) ∧
      ∀ j, j ≠ i → S.part j (content (x.advance h s).2) = S.part j (content s) := by
  have stepped {step : Step} {t : ρ} (move : h.Moves s step t)
      (may : step.Calls (S.may i (S.part i (content s)))) :
      S.Sees i (S.part i (content s)) step (S.part i (content t)) ∧ S.sound (content t) ∧
        ∀ j, j ≠ i → S.part j (content t) = S.part j (content s) := by
    have reacts := follow s step t move
    exact ⟨⟨_, _, sound, reacts, rfl, rfl⟩, S.keeps i _ _ _ sound may reacts,
      fun j other => S.apart i j _ _ _ other sound may reacts⟩
  cases x with
  | done a => exact ⟨sound, abides, fun _ _ => rfl⟩
  | call scope c next =>
      obtain ⟨seen, kept, others⟩ := stepped (.call s scope c) abides.1
      exact ⟨kept, abides.2 _ _ seen, others⟩
  | now next =>
      obtain ⟨seen, kept, others⟩ := stepped (.now s) trivial
      exact ⟨kept, abides _ _ seen, others⟩
  | pause time next =>
      obtain ⟨seen, kept, others⟩ := stepped (.pause s time) trivial
      exact ⟨kept, abides _ seen, others⟩

/-- Flows that abide keep abiding, in whatever order they take their turns. -/
theorem abides_interleaved [DecidableEq ι] (S : Sharing R ι τ) (content : ρ → σ)
    (follow : ∀ s step t, h.Moves s step t → R (content s) step (content t))
    (turns : List ι) (flows : ι → Flow α) (sound : S.sound (content s))
    (abides : ∀ i, (flows i).Abides S i (ends i) (S.part i (content s))) :
    S.sound (content (interleaved h turns flows s).2) ∧
      ∀ i, ((interleaved h turns flows s).1 i).Abides S i (ends i)
        (S.part i (content (interleaved h turns flows s).2)) := by
  induction turns generalizing flows s with
  | nil => exact ⟨sound, abides⟩
  | cons i turns ih =>
      -- Whoever had no turn abides on a part that has stayed as it was.
      obtain ⟨kept, own, others⟩ := (abides i).advance follow sound
      refine ih _ kept fun j => ?_
      by_cases same : j = i
      · subst same
        rwa [Function.update_self]
      · rw [Function.update_of_ne same, others j same]
        exact abides j

end

end Flow

/-! ## Procedures -/

namespace Procedure

/-- The procedure abides, and what it yields when it succeeds is as `yields` says. -/
def Abides (S : Sharing R ι τ) (i : ι) (yields : α → τ → Prop) (x : Procedure α) (v : τ) : Prop :=
  x.run.Abides S i (fun out w => ∀ a, out = .ok a → yields a w) v

variable {yields : α → τ → Prop}

theorem abides_pure {a : α} (h : yields a v) : Abides S i yields (pure a) v := by
  rintro _ ⟨⟩
  exact h

theorem abides_throw (e : Failure) : Abides S i yields (throw e) v := by
  rintro _ ⟨⟩

theorem abides_ofExcept {x : Except Failure α} (h : ∀ a, x = .ok a → yields a v) :
    Abides S i yields (ofExcept x) v := h

theorem abides_lookup {subject : Subject} {found : Except LookupFault α}
    (h : ∀ a, found = .ok a → yields a v) : Abides S i yields (lookup subject found) v := by
  refine abides_ofExcept fun a result => h a ?_
  cases found with
  | ok b =>
      cases result
      rfl
  | error fault => cases result

theorem abides_call {scope : Scope} {c : Call} {yields : c.Answer → τ → Prop} (may : S.may i v c)
    (h : ∀ a w, S.Sees i v (.call scope c (.ok a)) w → yields a w) :
    Abides S i yields (call scope c) v := by
  refine ⟨may, fun answer w seen => ?_⟩
  rintro a rfl
  exact h a w seen

theorem Abides.mono {x : Procedure α} {yields' : α → τ → Prop} (h : Abides S i yields x v)
    (weaken : ∀ a w, yields a w → yields' a w) : Abides S i yields' x v :=
  Flow.Abides.mono h fun _ w all a result => weaken a w (all a result)

theorem Abides.bind {x : Procedure α} {f : α → Procedure β} {yields : β → τ → Prop}
    (first : Abides S i (fun a w => Abides S i yields (f a) w) x v) :
    Abides S i yields (x >>= f) v := by
  refine Flow.Abides.bind (Flow.Abides.mono first fun out w goesOn => ?_)
  cases out with
  | ok a => exact goesOn a rfl
  | error e => exact fun _ failed => nomatch failed

theorem abides_callOr {missing : Missing} {scope : Scope} {c : Call} {yields : c.Answer → τ → Prop}
    (may : S.may i v c) (h : ∀ a w, S.Sees i v (.call scope c (.ok a)) w → yields a w) :
    Abides S i yields (callOr missing scope c) v := by
  refine Flow.Abides.bind (Flow.Abides.mono (abides_call may h) fun answer w found => ?_)
  cases answer with
  | ok a =>
      rintro _ ⟨⟩
      exact found a rfl
  | error e => cases e <;> exact abides_throw _

end Procedure

end

end Enrollment.Registration
