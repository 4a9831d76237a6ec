import Enrollment.Inventory.Client

/-!
# Flows

A flow is a program that makes calls to an inventory, reads a clock and pauses. It is plain
data: which calls come next may depend on the answers, and nothing else is hidden in it. A
handler gives the flow a meaning, by saying what the inventory, the clock and a pause do to
some state. The same flow can thus be run against the inventory over HTTP, against the
inventory in memory, or one call at a time among others.
-/

namespace Enrollment.Registration

open Inventory

inductive Flow (α : Type) where
  | done (value : α)
  | call (scope : Scope) (call : Call) (next : Except Failure call.Answer → Flow α)
  | now (next : Instant → Flow α)
  | pause (time : Duration) (next : Unit → Flow α)

namespace Flow

variable {α β γ : Type}

def bind : Flow α → (α → Flow β) → Flow β
  | done a, f => f a
  | call scope c next, f => call scope c fun answer => (next answer).bind f
  | now next, f => now fun t => (next t).bind f
  | pause d next, f => pause d fun u => (next u).bind f

instance : Monad Flow where
  pure := done
  bind := bind

@[simp] theorem done_bind (a : α) (f : α → Flow β) : (done a).bind f = f a := rfl

@[simp] theorem bind_done (x : Flow α) : x.bind done = x := by
  induction x with
  | done => rfl
  | call _ _ _ ih | now _ ih | pause _ _ ih => simp only [bind, ih]

theorem bind_assoc (x : Flow α) (f : α → Flow β) (g : β → Flow γ) :
    (x.bind f).bind g = x.bind fun a => (f a).bind g := by
  induction x with
  | done => rfl
  | call _ _ _ ih | now _ ih | pause _ _ ih => simp only [bind, ih]

instance : LawfulMonad Flow :=
  LawfulMonad.mk' Flow (fun x => bind_done x) (fun _ _ => rfl) (fun x f g => bind_assoc x f g)

/-- What the surroundings of a flow do to a state. -/
structure Handler (σ : Type) where
  call : (scope : Scope) → (c : Call) → StateM σ (Except Failure c.Answer)
  now : σ → Instant
  pause : Duration → σ → σ

/-- The flow carried out by a handler. -/
def run {σ : Type} (h : Handler σ) : Flow α → StateM σ α
  | done a => pure a
  | call scope c next => fun s =>
    let (answer, s) := h.call scope c s
    (next answer).run h s
  | now next => fun s => (next (h.now s)).run h s
  | pause d next => fun s => (next ()).run h (h.pause d s)

section Run

variable {σ : Type} (h : Handler σ) (s : σ)

@[simp] theorem run_done (a : α) : (done a).run h s = (a, s) := rfl

@[simp] theorem run_call (scope : Scope) (c : Call)
    (next : Except Failure c.Answer → Flow α) :
    (call scope c next).run h s =
      (next (h.call scope c s).1).run h (h.call scope c s).2 := rfl

@[simp] theorem run_now (next : Instant → Flow α) :
    (now next).run h s = (next (h.now s)).run h s := rfl

@[simp] theorem run_pause (d : Duration) (next : Unit → Flow α) :
    (pause d next).run h s = (next ()).run h (h.pause d s) := rfl

end Run

theorem run_bind {σ : Type} (h : Handler σ) (x : Flow α) (f : α → Flow β) :
    (x.bind f).run h = (do let a ← x.run h; (f a).run h) := by
  funext s
  induction x generalizing s with
  | done => rfl
  | call _ _ _ ih | now _ ih | pause _ _ ih => exact ih _ _

end Flow

/-- A flow that may fail. -/
abbrev Procedure := ExceptT Failure Flow

namespace Procedure

def call (scope : Scope) (c : Call) : Procedure c.Answer := ExceptT.mk (.call scope c .done)

/-- A result that is there already. -/
def ofExcept {α : Type} (x : Except Failure α) : Procedure α := ExceptT.mk (.done x)

/-- What is found out about this cluster, or the failure to. -/
def lookup {α : Type} (subject : Subject) (found : Except LookupFault α) : Procedure α :=
  ofExcept (found.mapError (.lookup subject))

/-- A call for which nothing found is reported as `missing`. -/
def callOr (missing : Missing) (scope : Scope) (c : Call) : Procedure c.Answer := do
  try call scope c
  catch
    | .notFound _ => throw (.notFound missing)
    | e => throw e

/-- Repeat a procedure until it succeeds or the poll gives up. -/
def poll {α : Type} (p : PollPolicy) (operation : String) (x : Procedure α) : Procedure α :=
  ExceptT.mk do
    let outcome ← p.poll operation (Flow.now .done) (fun d => Flow.pause d .done) x.run
    pure (outcome.mapError .unfinished)

end Procedure

/-! ## Handlers -/

/-- The inventory over HTTP. -/
def overHttp [Url.Idna] {σ : Type} (net : Http.Network σ) (client : Client) :
    Flow.Handler (Http.Wire σ) where
  call := client.perform net
  now wire := wire.now
  pause d wire := (net.pause d wire).2

/-- The inventory in memory, beside a clock of its own. -/
def inMemory (pacing : Pacing) : Flow.Handler (Store × Timeline) where
  call _ c := fun (store, timeline) =>
    let (answer, store) := Store.perform c store
    (answer, store, timeline)
  now s := s.2.now
  pause d s := (s.1, s.2.pause pacing d)

end Enrollment.Registration
