import Enrollment.Registration.Flow

/-!
# The steps of a flow

A flow is a tree of calls, readings of the clock and pauses. One way through the tree is a
list of steps, each with what came back for it. `Flow.Takes` says which ways a flow has,
whatever its surroundings answer. A handler picks one of them: `Flow.trace` is the steps of a
run, and every state that the run passes through is behind some of them.

States are followed along the steps by `Along`, for any relation that says what one step may
do to a state. Handlers, stores and logs each have such a relation, so what is known of the
steps of a flow is used for all of them. `Throughout` and `Guarded` speak of every point of
the way: of the state there, and of the step that is taken there.
-/

namespace Enrollment

/-- The call writes to the records of clusters. -/
def Inventory.Call.WritesCluster : Inventory.Call → Prop
  | .createCluster _ _ | .updateCluster _ _ | .promote _ | .unmanage _ | .deleteCluster _ _ => True
  | _ => False

namespace Registration

open Inventory

/-- One thing that a flow does, with what comes back for it. -/
inductive Step where
  | call (scope : Scope) (call : Call) (answer : Except Failure call.Answer)
  | now (shown : Instant)
  | pause (time : Duration)

/-- The kind of call that a step makes, if it makes one. -/
def Step.operation? : Step → Option String
  | .call _ c _ => some c.operation
  | _ => none

/-- The step writes to the records of clusters. -/
def Step.WritesCluster : Step → Prop
  | .call _ c _ => c.WritesCluster
  | _ => False

/-! ## States along steps -/

section Along

variable {σ τ : Type}

/-- The steps may lead from one state to another when each may do what `R` says. -/
inductive Along (R : σ → Step → σ → Prop) : σ → List Step → σ → Prop
  | nil (s : σ) : Along R s [] s
  | cons {s t u : σ} {step : Step} {steps : List Step} (first : R s step t)
      (rest : Along R t steps u) : Along R s (step :: steps) u

variable {R : σ → Step → σ → Prop} {s t u : σ} {step : Step} {steps xs ys : List Step}

@[simp] theorem along_nil_iff : Along R s [] t ↔ s = t := by
  constructor
  · rintro ⟨⟩
    rfl
  · rintro rfl
    exact .nil _

@[simp] theorem along_cons_iff :
    Along R s (step :: steps) u ↔ ∃ t, R s step t ∧ Along R t steps u := by
  constructor
  · rintro (_ | ⟨first, rest⟩)
    exact ⟨_, first, rest⟩
  · rintro ⟨t, first, rest⟩
    exact .cons first rest

@[simp] theorem along_singleton_iff : Along R s [step] t ↔ R s step t := by
  simp

theorem along_append_iff :
    Along R s (xs ++ ys) u ↔ ∃ t, Along R s xs t ∧ Along R t ys u := by
  induction xs generalizing s with
  | nil => simp
  | cons x xs ih =>
      simp only [List.cons_append, along_cons_iff, ih]
      constructor
      · rintro ⟨r, first, t, left, right⟩
        exact ⟨t, ⟨r, first, left⟩, right⟩
      · rintro ⟨t, ⟨r, first, left⟩, right⟩
        exact ⟨r, first, t, left, right⟩

/-- What a view of the states does along the steps, when it follows every single one as long
as `I` holds, which every step keeps. -/
theorem Along.map_of {Q : τ → Step → τ → Prop} {I : σ → Prop} (view : σ → τ)
    (follow : ∀ s step t, I s → R s step t → Q (view s) step (view t) ∧ I t) (start : I s)
    (h : Along R s steps t) : Along Q (view s) steps (view t) ∧ I t := by
  induction h with
  | nil s => exact ⟨.nil _, start⟩
  | cons first _ ih =>
      obtain ⟨seen, next⟩ := follow _ _ _ start first
      obtain ⟨rest, finish⟩ := ih next
      exact ⟨.cons seen rest, finish⟩

theorem Along.map {Q : τ → Step → τ → Prop} (view : σ → τ)
    (follow : ∀ s step t, R s step t → Q (view s) step (view t))
    (h : Along R s steps t) : Along Q (view s) steps (view t) :=
  (h.map_of (I := fun _ => True) view (fun s step t _ first => ⟨follow s step t first, trivial⟩)
    trivial).1

/-- Every state that the steps may lead to, the first and the last one included, is as `I`
says. -/
def Throughout (R : σ → Step → σ → Prop) (I : σ → Prop) (s : σ) (steps : List Step) : Prop :=
  ∀ before after t, steps = before ++ after → Along R s before t → I t

namespace Throughout

variable {I J : σ → Prop}

@[simp] theorem nil_iff : Throughout R I s [] ↔ I s := by
  constructor
  · intro h
    exact h [] [] s rfl (.nil s)
  · intro h before after t split along
    obtain ⟨rfl, -⟩ := List.append_eq_nil_iff.mp split.symm
    exact along_nil_iff.mp along ▸ h

@[simp] theorem cons_iff :
    Throughout R I s (step :: steps) ↔ I s ∧ ∀ t, R s step t → Throughout R I t steps := by
  constructor
  · intro h
    refine ⟨h [] _ s rfl (.nil s), ?_⟩
    intro t first before after u split along
    exact h (step :: before) after u (by rw [split, List.cons_append]) (.cons first along)
  · rintro ⟨here, there⟩ before after u split along
    cases along with
    | nil => exact here
    | cons first rest =>
        obtain ⟨rfl, rfl⟩ := List.cons.inj split
        exact there _ first _ after u rfl rest

theorem last (h : Throughout R I s steps) (along : Along R s steps t) : I t :=
  h steps [] t (List.append_nil _).symm along

theorem append (left : Throughout R I s xs)
    (right : ∀ t, Along R s xs t → Throughout R I t ys) : Throughout R I s (xs ++ ys) := by
  induction xs generalizing s with
  | nil => exact right s (.nil s)
  | cons x xs ih =>
      rw [cons_iff] at left
      rw [List.cons_append, cons_iff]
      exact ⟨left.1, fun t first => ih (left.2 t first) fun u along => right u (.cons first along)⟩

/-- What holds throughout of a view of the states. -/
theorem of_map {Q : τ → Step → τ → Prop} {K : τ → Prop} (view : σ → τ)
    (follow : ∀ s step t, R s step t → Q (view s) step (view t))
    (h : Throughout Q K (view s) steps) : Throughout R (fun s => K (view s)) s steps :=
  fun before after t split along => h before after (view t) split (along.map view follow)

/-- A property that every step keeps holds throughout. -/
theorem of_keeps (keeps : ∀ s step t, step ∈ steps → I s → R s step t → I t) (start : I s) :
    Throughout R I s steps := by
  induction steps generalizing s with
  | nil => exact nil_iff.mpr start
  | cons x xs ih =>
      rw [cons_iff]
      refine ⟨start, fun t first => ih (fun s step t member => ?_) ?_⟩
      · exact keeps s step t (List.mem_cons_of_mem x member)
      · exact keeps s x t List.mem_cons_self start first

end Throughout

end Along

/-! ## What stands in front of a step -/

/-- Every step is as `P` says of it and of the steps in front of it. -/
def Guarded (P : List Step → Step → Prop) (steps : List Step) : Prop :=
  ∀ before step after, steps = before ++ step :: after → P before step

namespace Guarded

variable {P : List Step → Step → Prop} {step : Step} {steps xs ys : List Step}

@[simp] theorem nil : Guarded P [] := by
  intro before step after split
  exact absurd split.symm (by simp)

@[simp] theorem cons_iff :
    Guarded P (step :: steps) ↔ P [] step ∧ Guarded (fun h => P (step :: h)) steps := by
  constructor
  · intro h
    refine ⟨h [] step steps rfl, ?_⟩
    intro before x after split
    exact h (step :: before) x after (by rw [split, List.cons_append])
  · rintro ⟨first, rest⟩ before x after split
    cases before with
    | nil =>
        obtain ⟨rfl, -⟩ := List.cons.inj split
        exact first
    | cons y before =>
        obtain ⟨rfl, rfl⟩ := List.cons.inj split
        exact rest before x after rfl

@[simp] theorem append_iff :
    Guarded P (xs ++ ys) ↔ Guarded P xs ∧ Guarded (fun h => P (xs ++ h)) ys := by
  induction xs generalizing P with
  | nil => simp
  | cons x xs ih => simp only [List.cons_append, cons_iff, ih, and_assoc]

theorem mono {Q : List Step → Step → Prop} (h : Guarded P steps)
    (weaken : ∀ before step, P before step → Q before step) : Guarded Q steps :=
  fun before step after split => weaken before step (h before step after split)

end Guarded

/-! ## The steps that a flow takes -/

namespace Flow

variable {α β σ : Type}

/-- The flow may take these steps and come to this value. -/
inductive Takes : Flow α → List Step → α → Prop
  | done (a : α) : Takes (.done a) [] a
  | call {scope : Scope} {c : Call} {next : Except Failure c.Answer → Flow α}
      {answer : Except Failure c.Answer} {steps : List Step} {a : α}
      (rest : Takes (next answer) steps a) :
      Takes (.call scope c next) (.call scope c answer :: steps) a
  | now {next : Instant → Flow α} {shown : Instant} {steps : List Step} {a : α}
      (rest : Takes (next shown) steps a) : Takes (.now next) (.now shown :: steps) a
  | pause {time : Duration} {next : Unit → Flow α} {steps : List Step} {a : α}
      (rest : Takes (next ()) steps a) : Takes (.pause time next) (.pause time :: steps) a

@[simp] theorem takes_done_iff {steps : List Step} {a b : α} :
    (done a).Takes steps b ↔ steps = [] ∧ b = a := by
  constructor
  · rintro ⟨⟩
    exact ⟨rfl, rfl⟩
  · rintro ⟨rfl, rfl⟩
    exact .done _

/-- A flow that goes on from another one takes the other one's steps first. -/
theorem Takes.of_bind {x : Flow α} {f : α → Flow β} {steps : List Step} {b : β}
    (h : (x.bind f).Takes steps b) :
    ∃ first a rest, steps = first ++ rest ∧ x.Takes first a ∧ (f a).Takes rest b := by
  induction x generalizing steps with
  | done a => exact ⟨[], a, steps, rfl, .done a, h⟩
  | call scope c next ih =>
      cases h with
      | call rest =>
          obtain ⟨first, a, left, rfl, head, tail⟩ := ih _ rest
          exact ⟨_ :: first, a, left, rfl, .call head, tail⟩
  | now next ih =>
      cases h with
      | now rest =>
          obtain ⟨first, a, left, rfl, head, tail⟩ := ih _ rest
          exact ⟨_ :: first, a, left, rfl, .now head, tail⟩
  | pause time next ih =>
      cases h with
      | pause rest =>
          obtain ⟨first, a, left, rfl, head, tail⟩ := ih _ rest
          exact ⟨_ :: first, a, left, rfl, .pause head, tail⟩

/-- Whatever comes back, the flow takes no steps but such as `P` says. -/
def Only (P : Step → Prop) (x : Flow α) : Prop :=
  ∀ steps a, x.Takes steps a → ∀ step ∈ steps, P step

section Only

variable {P : Step → Prop}

theorem only_done (a : α) : (done a).Only P := by
  rintro _ _ ⟨⟩ step member
  exact absurd member List.not_mem_nil

theorem only_call {scope : Scope} {c : Call} {next : Except Failure c.Answer → Flow α}
    (first : ∀ answer, P (.call scope c answer)) (rest : ∀ answer, (next answer).Only P) :
    (call scope c next).Only P := by
  rintro _ _ (_ | ⟨tail⟩) step member
  rcases List.mem_cons.mp member with rfl | member
  · exact first _
  · exact rest _ _ _ tail step member

theorem only_now {next : Instant → Flow α} (first : ∀ shown, P (.now shown))
    (rest : ∀ shown, (next shown).Only P) : (now next).Only P := by
  rintro _ _ (_ | _ | ⟨tail⟩) step member
  rcases List.mem_cons.mp member with rfl | member
  · exact first _
  · exact rest _ _ _ tail step member

theorem only_pause {time : Duration} {next : Unit → Flow α} (first : P (.pause time))
    (rest : (next ()).Only P) : (pause time next).Only P := by
  rintro _ _ (_ | _ | _ | ⟨tail⟩) step member
  rcases List.mem_cons.mp member with rfl | member
  · exact first
  · exact rest _ _ tail step member

theorem only_bind {x : Flow α} {f : α → Flow β} (first : x.Only P) (rest : ∀ a, (f a).Only P) :
    (x.bind f).Only P := by
  intro steps b takes step member
  obtain ⟨left, a, right, rfl, head, tail⟩ := takes.of_bind
  rcases List.mem_append.mp member with member | member
  · exact first left a head step member
  · exact rest a right b tail step member

end Only

/-! ## Runs -/

theorem run_bind_apply (h : Handler σ) (x : Flow α) (f : α → Flow β) (s : σ) :
    (x.bind f).run h s = (f (x.run h s).1).run h (x.run h s).2 := by
  rw [run_bind]
  rfl

/-- One step as a handler carries it out. -/
inductive Handler.Moves (h : Handler σ) : σ → Step → σ → Prop
  | call (s : σ) (scope : Scope) (c : Call) :
      Moves h s (.call scope c (h.call scope c s).1) (h.call scope c s).2
  | now (s : σ) : Moves h s (.now (h.now s)) s
  | pause (s : σ) (time : Duration) : Moves h s (.pause time) (h.pause time s)

/-- The states that a run passes through, from the one it starts in to the one it ends in. -/
def states (h : Handler σ) : Flow α → σ → List σ
  | done _, s => [s]
  | call scope c next, s =>
    s :: (next (h.call scope c s).1).states h (h.call scope c s).2
  | now next, s => s :: (next (h.now s)).states h s
  | pause d next, s => s :: (next ()).states h (h.pause d s)

/-- The steps of a run, each with what came back for it. -/
def trace (h : Handler σ) : Flow α → σ → List Step
  | done _, _ => []
  | call scope c next, s =>
    .call scope c (h.call scope c s).1 ::
      (next (h.call scope c s).1).trace h (h.call scope c s).2
  | now next, s => .now (h.now s) :: (next (h.now s)).trace h s
  | pause d next, s => .pause d :: (next ()).trace h (h.pause d s)

theorem takes_trace (h : Handler σ) (x : Flow α) (s : σ) :
    x.Takes (x.trace h s) (x.run h s).1 := by
  induction x generalizing s with
  | done a => exact .done a
  | call scope c next ih => exact .call (ih _ _)
  | now next ih => exact .now (ih _ _)
  | pause d next ih => exact .pause (ih _ _)

theorem along_trace (h : Handler σ) (x : Flow α) (s : σ) :
    Along h.Moves s (x.trace h s) (x.run h s).2 := by
  induction x generalizing s with
  | done a => exact .nil s
  | call scope c next ih => exact .cons (.call s scope c) (ih _ _)
  | now next ih => exact .cons (.now s) (ih _ _)
  | pause d next ih => exact .cons (.pause s d) (ih _ _)

/-- Every state of a run is passed behind some of its steps. -/
theorem exists_along_of_mem_states (h : Handler σ) (x : Flow α) {s t : σ}
    (member : t ∈ x.states h s) :
    ∃ before after, x.trace h s = before ++ after ∧ Along h.Moves s before t := by
  have onwards {s s' : σ} {step : Step} {steps : List Step} (first : h.Moves s step s')
      (later : ∃ before after, steps = before ++ after ∧ Along h.Moves s' before t) :
      ∃ before after, step :: steps = before ++ after ∧ Along h.Moves s before t := by
    obtain ⟨before, after, rfl, along⟩ := later
    exact ⟨step :: before, after, rfl, .cons first along⟩
  induction x generalizing s with
  | done a =>
      obtain rfl := List.mem_singleton.mp member
      exact ⟨[], [], rfl, .nil t⟩
  | call scope c next ih =>
      rcases List.mem_cons.mp member with rfl | member
      · exact ⟨[], _, rfl, .nil t⟩
      · exact onwards (.call s scope c) (ih _ member)
  | now next ih =>
      rcases List.mem_cons.mp member with rfl | member
      · exact ⟨[], _, rfl, .nil t⟩
      · exact onwards (.now s) (ih _ member)
  | pause d next ih =>
      rcases List.mem_cons.mp member with rfl | member
      · exact ⟨[], _, rfl, .nil t⟩
      · exact onwards (.pause s d) (ih _ member)

/-- The steps of a run, and where on the way each state is passed. -/
theorem exists_takes_run (h : Handler σ) (x : Flow α) (s : σ) :
    ∃ steps, x.Takes steps (x.run h s).1 ∧ Along h.Moves s steps (x.run h s).2 ∧
      ∀ t ∈ x.states h s, ∃ before after, steps = before ++ after ∧ Along h.Moves s before t :=
  ⟨x.trace h s, takes_trace h x s, along_trace h x s,
    fun _ member => exists_along_of_mem_states h x member⟩

/-- What holds throughout every way that a flow may take holds in every state of a run. -/
theorem of_mem_states {I : σ → Prop} {h : Handler σ} {x : Flow α} {s t : σ}
    (inv : ∀ steps, x.Takes steps (x.run h s).1 → Throughout h.Moves I s steps)
    (member : t ∈ x.states h s) : I t := by
  obtain ⟨steps, takes, -, passed⟩ := exists_takes_run h x s
  obtain ⟨before, after, split, along⟩ := passed t member
  exact inv steps takes before after t split along

end Flow

/-! ## Procedures -/

namespace Procedure

variable {α β : Type} {steps : List Step}

theorem run_bind (x : Procedure α) (f : α → Procedure β) :
    (x >>= f).run = x.run.bind (ExceptT.bindCont f) := rfl

theorem ofExcept_ok_bind (a : α) (f : α → Procedure β) : (ofExcept (.ok a) >>= f) = f a := rfl

theorem run_call (scope : Scope) (c : Call) :
    (call scope c).run = .call scope c fun answer => .done (answer.mapError id) := by
  refine congrArg (Flow.call scope c) (funext fun answer => ?_)
  cases answer <;> rfl

/-- A procedure either fails where its first part does, or goes on behind it. -/
theorem takes_bind {x : Procedure α} {f : α → Procedure β} {out : Except Failure β}
    (h : (x >>= f).run.Takes steps out) :
    (∃ e, x.run.Takes steps (.error e) ∧ out = .error e) ∨
      ∃ first a rest, steps = first ++ rest ∧ x.run.Takes first (.ok a) ∧
        (f a).run.Takes rest out := by
  obtain ⟨first, a, rest, rfl, head, tail⟩ := Flow.Takes.of_bind h
  cases a with
  | error e =>
      obtain ⟨rfl, rfl⟩ := Flow.takes_done_iff.mp tail
      exact .inl ⟨e, (List.append_nil first).symm ▸ head, rfl⟩
  | ok a => exact .inr ⟨first, a, rest, rfl, head, tail⟩

theorem takes_ofExcept {x out : Except Failure α} (h : (ofExcept x).run.Takes steps out) :
    steps = [] ∧ out = x := Flow.takes_done_iff.mp h

theorem takes_pure {a : α} {out : Except Failure α}
    (h : (pure a : Procedure α).run.Takes steps out) : steps = [] ∧ out = .ok a :=
  Flow.takes_done_iff.mp h

theorem takes_throw {e : Failure} {out : Except Failure α}
    (h : (throw e : Procedure α).run.Takes steps out) : steps = [] ∧ out = .error e :=
  Flow.takes_done_iff.mp h

theorem takes_call {scope : Scope} {c : Call} {out : Except Failure c.Answer}
    (h : (call scope c).run.Takes steps out) : steps = [.call scope c out] := by
  cases h with
  | call rest =>
      obtain ⟨rfl, rfl⟩ := Flow.takes_done_iff.mp rest
      rfl

/-- A failure as it is reported where `missing` has been looked for. -/
def reportedAs (missing : Missing) : Failure → Failure
  | .notFound _ => .notFound missing
  | e => e

theorem run_callOr (missing : Missing) (scope : Scope) (c : Call) :
    (callOr missing scope c).run =
      .call scope c fun answer => .done (answer.mapError (reportedAs missing)) := by
  refine congrArg (Flow.call scope c) (funext fun answer => ?_)
  cases answer with
  | ok a => rfl
  | error e => cases e <;> rfl

theorem takes_callOr {missing : Missing} {scope : Scope} {c : Call}
    {out : Except Failure c.Answer} (h : (callOr missing scope c).run.Takes steps out) :
    ∃ answer, steps = [.call scope c answer] ∧ out = answer.mapError (reportedAs missing) := by
  obtain ⟨first, answer, rest, rfl, head, tail⟩ := Flow.Takes.of_bind h
  refine ⟨answer, ?_⟩
  rw [takes_call head]
  cases answer with
  | ok a =>
      obtain ⟨rfl, rfl⟩ := takes_pure tail
      exact ⟨rfl, rfl⟩
  | error e => cases e <;> (obtain ⟨rfl, rfl⟩ := takes_throw tail; exact ⟨rfl, rfl⟩)

/-! What a procedure takes that starts with a result, or with a call. -/

variable {f : α → Procedure β} {out : Except Failure β}

theorem takes_ofExcept_bind {x : Except Failure α} (h : (ofExcept x >>= f).run.Takes steps out) :
    (∃ e, x = .error e ∧ steps = [] ∧ out = .error e) ∨
      ∃ a, x = .ok a ∧ (f a).run.Takes steps out := by
  rcases takes_bind h with ⟨e, start, rfl⟩ | ⟨first, a, rest, rfl, start, tail⟩
  · obtain ⟨rfl, result⟩ := takes_ofExcept start
    exact .inl ⟨e, result.symm, rfl, rfl⟩
  · obtain ⟨rfl, result⟩ := takes_ofExcept start
    exact .inr ⟨a, result.symm, tail⟩

theorem takes_lookup_bind {subject : Subject} {found : Except LookupFault α}
    (h : (lookup subject found >>= f).run.Takes steps out) :
    (∃ fault, found = .error fault ∧ steps = [] ∧ out = .error (.lookup subject fault)) ∨
      ∃ a, found = .ok a ∧ (f a).run.Takes steps out := by
  rcases takes_ofExcept_bind h with ⟨e, result, rfl, rfl⟩ | ⟨a, result, tail⟩
  · cases found with
    | error fault =>
        cases result
        exact .inl ⟨fault, rfl, rfl, rfl⟩
    | ok a => cases result
  · cases found with
    | error fault => cases result
    | ok a =>
        cases result
        exact .inr ⟨a, rfl, tail⟩

theorem takes_call_bind {scope : Scope} {c : Call} {f : c.Answer → Procedure β}
    (h : (call scope c >>= f).run.Takes steps out) :
    (∃ e, steps = [.call scope c (.error e)] ∧ out = .error e) ∨
      ∃ a rest, steps = .call scope c (.ok a) :: rest ∧ (f a).run.Takes rest out := by
  rcases takes_bind h with ⟨e, start, rfl⟩ | ⟨first, a, rest, rfl, start, tail⟩
  · exact .inl ⟨e, takes_call start, rfl⟩
  · exact .inr ⟨a, rest, by rw [takes_call start, List.singleton_append], tail⟩

theorem takes_callOr_bind {missing : Missing} {scope : Scope} {c : Call}
    {f : c.Answer → Procedure β} (h : (callOr missing scope c >>= f).run.Takes steps out) :
    (∃ e, steps = [.call scope c (.error e)] ∧ out = .error (reportedAs missing e)) ∨
      ∃ a rest, steps = .call scope c (.ok a) :: rest ∧ (f a).run.Takes rest out := by
  rcases takes_bind h with ⟨e, start, rfl⟩ | ⟨first, a, rest, rfl, start, tail⟩
  · obtain ⟨_ | _, rfl, result⟩ := takes_callOr start
    · cases result
      exact .inl ⟨_, rfl, rfl⟩
    · cases result
  · obtain ⟨_ | _, rfl, result⟩ := takes_callOr start
    · cases result
    · cases result
      exact .inr ⟨_, rest, List.singleton_append, tail⟩

end Procedure

end Registration

end Enrollment
