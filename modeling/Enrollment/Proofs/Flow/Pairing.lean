import Enrollment.Proofs.Flow.Steps

/-!
# Two flows side by side

Two flows are alike when they take the same steps: they make the same calls, perhaps for different
scopes, read the clock and pause in the same places, and end with values that are related. A
`Likeness` says which scopes may differ in this way, and which answers may: behind any of them the
flows have to go on alike. Procedures are compared part by part. Handlers that keep two states in
step carry two flows that are alike to related ends.
-/

namespace Enrollment

/-- The same failure twice, or two values as `R` says. -/
inductive Both {ε α β : Type} (R : α → β → Prop) : Except ε α → Except ε β → Prop
  | error (e : ε) : Both R (.error e) (.error e)
  | ok {a : α} {b : β} (related : R a b) : Both R (.ok a) (.ok b)

namespace Both

variable {ε ε' α β : Type} {R : α → β → Prop} {x : Except ε α} {y : Except ε β}

theorem refl {R : α → α → Prop} (reflexive : ∀ a, R a a) (x : Except ε α) : Both R x x := by
  cases x with
  | error e => exact .error e
  | ok a => exact .ok (reflexive a)

theorem eq {x y : Except ε α} (h : Both Eq x y) : x = y := by
  cases h with
  | error e => rfl
  | ok same => rw [same]

theorem mono (h : Both R x y) {R' : α → β → Prop} (weaken : ∀ a b, R a b → R' a b) :
    Both R' x y := by
  cases h with
  | error e => exact .error e
  | ok related => exact .ok (weaken _ _ related)

theorem mapError (h : Both R x y) (f : ε → ε') : Both R (x.mapError f) (y.mapError f) := by
  cases h with
  | error e => exact .error (f e)
  | ok related => exact .ok related

end Both

namespace Registration

open Inventory

/-- What two runs may differ in: for which scopes they make a call, and what it answers. -/
structure Likeness where
  scopes : Scope → Scope → Prop
  answers : (c : Call) → c.Answer → c.Answer → Prop

section

variable {K : Likeness} {α α' β β' : Type} {R : α → α' → Prop} {S : β → β' → Prop}

/-! ## Flows -/

namespace Flow

/-- The flows take the same steps, and end with values as `R` says. -/
inductive Alike (K : Likeness) {α α' : Type} (R : α → α' → Prop) : Flow α → Flow α' → Prop
  | done {a : α} {a' : α'} (related : R a a') : Alike K R (.done a) (.done a')
  | call {scope scope' : Scope} {c : Call} {next : Except Failure c.Answer → Flow α}
      {next' : Except Failure c.Answer → Flow α'} (scopes : K.scopes scope scope')
      (rest : ∀ answer answer', Both (K.answers c) answer answer' →
        Alike K R (next answer) (next' answer')) :
      Alike K R (.call scope c next) (.call scope' c next')
  | now {next : Instant → Flow α} {next' : Instant → Flow α'}
      (rest : ∀ t, Alike K R (next t) (next' t)) : Alike K R (.now next) (.now next')
  | pause (time : Duration) {next : Unit → Flow α} {next' : Unit → Flow α'}
      (rest : ∀ u, Alike K R (next u) (next' u)) :
      Alike K R (.pause time next) (.pause time next')

theorem Alike.mono {x : Flow α} {y : Flow α'} {R' : α → α' → Prop} (alike : x.Alike K R y)
    (weaken : ∀ a a', R a a' → R' a a') : x.Alike K R' y := by
  induction alike with
  | done related => exact .done (weaken _ _ related)
  | call scopes _ ih => exact .call scopes ih
  | now _ ih => exact .now ih
  | pause time _ ih => exact .pause time ih

theorem Alike.bind {x : Flow α} {y : Flow α'} {f : α → Flow β} {g : α' → Flow β'}
    (first : x.Alike K R y) (rest : ∀ a a', R a a' → (f a).Alike K S (g a')) :
    (x.bind f).Alike K S (y.bind g) := by
  induction first with
  | done related => exact rest _ _ related
  | call scopes _ ih => exact .call scopes ih
  | now _ ih => exact .now ih
  | pause time _ ih => exact .pause time ih

/-- The attempts of a poll are alike if each of them is. -/
theorem alike_attemptsFrom {ε : Type} {x : Flow (Except ε α)} {y : Flow (Except ε α')}
    (attempt : x.Alike K (Both R) y) (verdict : Instant → Option PollFailure)
    (interval : Duration) (left : Nat) :
    (PollPolicy.attemptsFrom verdict (Flow.now .done) (Flow.pause interval .done) x left).Alike K
      (Both R)
      (PollPolicy.attemptsFrom verdict (Flow.now .done) (Flow.pause interval .done) y left) := by
  induction left with
  | zero => exact .done (.error _)
  | succ left ih =>
      refine attempt.bind fun answer answer' both => ?_
      cases both with
      | ok related => exact .done (.ok related)
      | error e =>
          refine .now fun t => ?_
          show Flow.Alike K _ (Flow.bind (.done t) _) (Flow.bind (.done t) _)
          simp only [done_bind]
          cases verdict t with
          | some failure => exact .done (.error failure)
          | none => exact .pause interval fun _ => ih

/-- Two handlers keep their states in step: what was alike in front of a call, a reading or a
pause is alike behind it, and so are the answers. -/
structure InStep {σ σ' : Type} (K : Likeness) (W : σ → σ' → Prop) (h : Handler σ)
    (h' : Handler σ') : Prop where
  call : ∀ {scope scope'} c {s s'}, K.scopes scope scope' → W s s' →
    Both (K.answers c) (h.call scope c s).1 (h'.call scope' c s').1 ∧
      W (h.call scope c s).2 (h'.call scope' c s').2
  now : ∀ {s s'}, W s s' → h.now s = h'.now s'
  pause : ∀ time {s s'}, W s s' → W (h.pause time s) (h'.pause time s')

/-- Flows that are alike have related ends, when they are carried out in step. -/
theorem Alike.run {σ σ' : Type} {W : σ → σ' → Prop} {h : Handler σ} {h' : Handler σ'}
    (inStep : InStep K W h h') {x : Flow α} {y : Flow α'} (alike : x.Alike K R y) {s : σ} {s' : σ'}
    (begun : W s s') : R (x.run h s).1 (y.run h' s').1 ∧ W (x.run h s).2 (y.run h' s').2 := by
  induction alike generalizing s s' with
  | done related => exact ⟨related, begun⟩
  | call scopes _ ih =>
      obtain ⟨answers, kept⟩ := inStep.call _ scopes begun
      exact ih _ _ answers kept
  | now _ ih =>
      rw [run_now, run_now, inStep.now begun]
      exact ih _ begun
  | pause time _ ih => exact ih () (inStep.pause time begun)

end Flow

/-! ## Procedures -/

namespace Procedure

/-- The procedures take the same steps, and fail alike or yield what `R` says. -/
def Alike (K : Likeness) (R : α → α' → Prop) (x : Procedure α) (y : Procedure α') : Prop :=
  x.run.Alike K (Both R) y.run

theorem alike_ofExcept {x : Except Failure α} {y : Except Failure α'} (both : Both R x y) :
    Alike K R (ofExcept x) (ofExcept y) := .done both

theorem alike_pure {a : α} {a' : α'} (related : R a a') :
    Alike K R (pure a : Procedure α) (pure a' : Procedure α') := alike_ofExcept (.ok related)

theorem alike_throw (e : Failure) : Alike K R (throw e : Procedure α) (throw e : Procedure α') :=
  alike_ofExcept (.error e)

theorem alike_lookup {subject : Subject} (found : Except LookupFault α) :
    Alike K Eq (lookup subject found) (lookup subject found) :=
  alike_ofExcept (.refl (fun _ => rfl) _)

theorem lookup_ok_bind {subject : Subject} (a : α) (f : α → Procedure β) :
    (lookup subject (.ok a) >>= f) = f a := rfl

theorem Alike.bind {x : Procedure α} {y : Procedure α'} {f : α → Procedure β}
    {g : α' → Procedure β'} (first : Alike K R x y)
    (rest : ∀ a a', R a a' → Alike K S (f a) (g a')) : Alike K S (x >>= f) (y >>= g) := by
  refine Flow.Alike.bind first fun answer answer' both => ?_
  cases both with
  | error e => exact alike_throw e
  | ok related => exact rest _ _ related

theorem Alike.mono {x : Procedure α} {y : Procedure α'} {R' : α → α' → Prop}
    (alike : Alike K R x y) (weaken : ∀ a a', R a a' → R' a a') : Alike K R' x y :=
  Flow.Alike.mono alike fun _ _ both => both.mono weaken

/-- What goes on with one and the same value. -/
theorem Alike.bind_eq {x y : Procedure α} {f : α → Procedure β} {g : α → Procedure β'}
    (first : Alike K Eq x y) (rest : ∀ a, Alike K S (f a) (g a)) :
    Alike K S (x >>= f) (y >>= g) :=
  first.bind fun a _ same => same ▸ rest a

theorem alike_call {scope scope' : Scope} (c : Call) (scopes : K.scopes scope scope') :
    Alike K (K.answers c) (call scope c) (call scope' c) := by
  rw [Alike, run_call, run_call]
  exact .call scopes fun _ _ both => .done (both.mapError id)

theorem alike_callOr {scope scope' : Scope} (missing : Missing) (c : Call)
    (scopes : K.scopes scope scope') :
    Alike K (K.answers c) (callOr missing scope c) (callOr missing scope' c) := by
  rw [Alike, run_callOr, run_callOr]
  exact .call scopes fun _ _ both => .done (both.mapError _)

theorem alike_poll (p : PollPolicy) (operation : String) {x : Procedure α} {y : Procedure α'}
    (attempt : Alike K R x y) : Alike K R (poll p operation x) (poll p operation y) := by
  unfold Alike poll PollPolicy.poll
  generalize PollPolicy.maxAttempts = left
  have clock : Flow.Alike K Eq (Flow.now .done) (Flow.now .done) := .now fun _ => .done rfl
  have ends (out : Except PollFailure α) (out' : Except PollFailure α') (both : Both R out out') :
      Flow.Alike K (Both R) (Flow.done (out.mapError Failure.unfinished))
        (Flow.done (out'.mapError Failure.unfinished)) := .done (both.mapError _)
  refine Flow.Alike.bind (Flow.Alike.bind clock ?_) ends
  rintro started _ rfl
  cases started.add? p.timeout with
  | none => exact .done (.error _)
  | some deadline => exact Flow.alike_attemptsFrom attempt _ _ left

end Procedure

end

end Registration

end Enrollment
