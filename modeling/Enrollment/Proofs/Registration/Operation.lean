import Enrollment.Proofs.Flow.Steps
import Enrollment.Registration.Basic

/-!
# Operations, one after the other

What an operator can ask for: a registration, an unregistration, or whether a cluster is
managed. Operations that follow each other on one inventory are one flow, so that its states
are all states in between, whichever operation is under way. Two of the three never create a
record and never promote one, however often they poll.
-/

namespace Enrollment.Registration

open Inventory

/-! ## What procedures are made of -/

namespace Procedure

variable {α β : Type} {P : Step → Prop}

theorem only_ofExcept (x : Except Failure α) : (ofExcept x).run.Only P := Flow.only_done x

theorem only_pure (a : α) : (pure a : Procedure α).run.Only P := Flow.only_done (Except.ok a)

theorem only_throw (e : Failure) : (throw e : Procedure α).run.Only P :=
  Flow.only_done (Except.error e)

theorem only_call {scope : Scope} {c : Call} (allowed : ∀ answer, P (.call scope c answer)) :
    (call scope c).run.Only P := Flow.only_call allowed Flow.only_done

theorem only_bind {x : Procedure α} {f : α → Procedure β} (first : x.run.Only P)
    (rest : ∀ a, (f a).run.Only P) : (x >>= f).run.Only P := by
  intro steps out takes step member
  rcases takes_bind takes with ⟨e, takes, -⟩ | ⟨left, a, right, rfl, head, tail⟩
  · exact first steps _ takes step member
  · rcases List.mem_append.mp member with member | member
    · exact first left _ head step member
    · exact rest a right out tail step member

theorem only_clock (shown : ∀ t, P (.now t)) : (Flow.now Flow.done).Only P :=
  Flow.only_now shown Flow.only_done

theorem only_wait (waited : ∀ d, P (.pause d)) (d : Duration) : (Flow.pause d Flow.done).Only P :=
  Flow.only_pause (waited d) (Flow.only_done ())

theorem only_attemptsFrom {ε : Type} {attempt : Flow (Except ε α)} (first : attempt.Only P)
    (shown : ∀ t, P (.now t)) (waited : ∀ d, P (.pause d))
    (verdict : Instant → Option PollFailure) (interval : Duration) (left : Nat) :
    (PollPolicy.attemptsFrom verdict (Flow.now Flow.done) (Flow.pause interval Flow.done) attempt
      left).Only P := by
  induction left with
  | zero => exact Flow.only_done _
  | succ left ih =>
      apply Flow.only_bind first
      intro outcome
      cases outcome with
      | ok a => exact Flow.only_done _
      | error e =>
          apply Flow.only_bind (only_clock shown)
          intro t
          generalize verdict t = settled
          cases settled with
          | some failure => exact Flow.only_done _
          | none => exact Flow.only_bind (only_wait waited interval) fun _ => ih

/-- A poll takes the steps of its attempts, reads the clock and waits. -/
theorem only_poll (p : PollPolicy) (operation : String) {x : Procedure α} (attempt : x.run.Only P)
    (shown : ∀ t, P (.now t)) (waited : ∀ d, P (.pause d)) :
    (poll p operation x).run.Only P := by
  unfold poll PollPolicy.poll
  generalize PollPolicy.maxAttempts = left
  refine Flow.only_bind (Flow.only_bind (only_clock shown) fun started => ?_) fun outcome =>
    Flow.only_done _
  cases started.add? p.timeout with
  | none => exact Flow.only_done _
  | some deadline => exact only_attemptsFrom attempt shown waited _ p.interval left

end Procedure

/-! ## Steps that claim nothing -/

/-- The step neither creates a cluster nor promotes one. -/
def Quiet : Step → Prop
  | .call _ (.createCluster _ _) _ | .call _ (.promote _) _ => False
  | _ => True

theorem only_scopeOf {P : Step → Prop} (cluster : LocalCluster) (s : Settings) :
    (scopeOf cluster s).run.Only P := by
  unfold scopeOf
  split
  · exact Procedure.only_throw _
  · exact Procedure.only_bind (Procedure.only_ofExcept _) fun _ => Procedure.only_pure _

theorem unregister_quiet (cluster : LocalCluster) (s : Settings) (poll : PollPolicy)
    (clusterId : String) : (unregister cluster s poll clusterId).run.Only Quiet := by
  refine Procedure.only_bind (only_scopeOf cluster s) ?_
  intro scope
  refine Procedure.only_bind ?_ fun cloud => ?_
  · refine Procedure.only_poll poll _ ?_ (fun _ => trivial) fun _ => trivial
    exact Procedure.only_bind (Procedure.only_call fun _ => trivial) fun _ => Procedure.only_pure _
  · split
    · exact Procedure.only_throw _
    · exact Procedure.only_bind (Procedure.only_call fun _ => trivial) fun _ =>
        Procedure.only_call fun _ => trivial

theorem isManaged_quiet (cluster : LocalCluster) (s : Settings) (clusterId : String) :
    (isManaged cluster s clusterId).run.Only Quiet := by
  refine Procedure.only_bind (only_scopeOf cluster s) ?_
  intro scope
  exact Procedure.only_bind (Procedure.only_call fun _ => trivial) fun _ => Procedure.only_pure _

/-! ## Operations -/

/-- Something that an operator may ask for. -/
inductive Operation where
  | register (cluster : LocalCluster) (s : Settings)
  | unregister (cluster : LocalCluster) (s : Settings) (poll : PollPolicy) (clusterId : String)
  | isManaged (cluster : LocalCluster) (s : Settings) (clusterId : String)

namespace Operation

/-- The steps of an operation, whatever comes of it. -/
def flow : Operation → Flow Unit
  | register cluster s => (Registration.register cluster s).run.bind fun _ => .done ()
  | unregister cluster s poll clusterId =>
    (Registration.unregister cluster s poll clusterId).run.bind fun _ => .done ()
  | isManaged cluster s clusterId =>
    (Registration.isManaged cluster s clusterId).run.bind fun _ => .done ()

/-- Operations that follow each other. -/
def inTurn : List Operation → Flow Unit
  | [] => .done ()
  | operation :: rest => operation.flow.bind fun _ => inTurn rest

end Operation

end Enrollment.Registration
