import Enrollment.Proofs.Registration.Path

/-!
# The ways through an unregistration

An unregistration polls for the private cloud, and then makes two calls, of which the second one
is only made when the first one has succeeded. A poll is a list of rounds, in each of which the
procedure is tried once: all rounds but the last one have failed, and the clock is read after
every failure. `poll_takes` finds the rounds of any poll, and `unregister_takes` says that an
unregistration takes no other ways than those listed.
-/

namespace Enrollment.Registration

open Inventory

/-! ## Polls -/

section

variable {α : Type}

/-- The rounds of a poll, from the one at hand on. -/
inductive PollPath (x : Procedure α) (interval : Duration) :
    List Step → Except PollFailure α → Prop
  | exhausted : PollPath x interval [] (.error .outOfRange)
  | succeeded {steps : List Step} {a : α} (round : x.run.Takes steps (.ok a)) :
      PollPath x interval steps (.ok a)
  | abandoned {steps : List Step} {e : Failure} {shown : Instant} {failure : PollFailure}
      (round : x.run.Takes steps (.error e)) :
      PollPath x interval (steps ++ [.now shown]) (.error failure)
  | again {steps rest : List Step} {e : Failure} {shown : Instant} {out : Except PollFailure α}
      (round : x.run.Takes steps (.error e)) (more : PollPath x interval rest out) :
      PollPath x interval (steps ++ .now shown :: .pause interval :: rest) out

theorem takes_clock {steps : List Step} {t : Instant}
    (h : (Flow.now Flow.done).Takes steps t) : steps = [.now t] := by
  cases h with
  | now rest =>
      obtain ⟨rfl, rfl⟩ := Flow.takes_done_iff.mp rest
      rfl

theorem takes_wait {time : Duration} {steps : List Step} {u : Unit}
    (h : (Flow.pause time Flow.done).Takes steps u) : steps = [.pause time] := by
  cases h with
  | pause rest =>
      obtain ⟨rfl, -⟩ := Flow.takes_done_iff.mp rest
      rfl

theorem attemptsFrom_takes {x : Procedure α} {interval : Duration}
    {verdict : Instant → Option PollFailure} {left : Nat} {steps : List Step}
    {out : Except PollFailure α}
    (h : (PollPolicy.attemptsFrom verdict (Flow.now Flow.done) (Flow.pause interval Flow.done)
      x.run left).Takes steps out) : PollPath x interval steps out := by
  induction left generalizing steps with
  | zero =>
      obtain ⟨rfl, rfl⟩ := Flow.takes_done_iff.mp h
      exact .exhausted
  | succ left ih =>
      obtain ⟨round, outcome, behind, rfl, tried, judged⟩ := Flow.Takes.of_bind h
      cases outcome with
      | ok a =>
          obtain ⟨rfl, rfl⟩ := Flow.takes_done_iff.mp judged
          rw [List.append_nil]
          exact .succeeded tried
      | error e =>
          obtain ⟨read, shown, after, rfl, clock, settled⟩ := Flow.Takes.of_bind judged
          rw [takes_clock clock]
          cases given : verdict shown with
          | some failure =>
              rw [given] at settled
              obtain ⟨rfl, rfl⟩ := Flow.takes_done_iff.mp settled
              exact .abandoned tried
          | none =>
              rw [given] at settled
              obtain ⟨paused, _, rest, rfl, waited, more⟩ := Flow.Takes.of_bind settled
              rw [takes_wait waited]
              exact .again tried (ih more)

/-- A poll reads the clock and then goes through its rounds. -/
theorem poll_takes {p : PollPolicy} {operation : String} {x : Procedure α} {steps : List Step}
    {out : Except Failure α} (h : (Procedure.poll p operation x).run.Takes steps out) :
    ∃ started rest result, steps = .now started :: rest ∧ PollPath x p.interval rest result ∧
      out = result.mapError .unfinished := by
  obtain ⟨polled, result, last, rfl, polls, tail⟩ := Flow.Takes.of_bind h
  obtain ⟨rfl, rfl⟩ := Flow.takes_done_iff.mp tail
  obtain ⟨read, started, rest, rfl, clock, rounds⟩ := Flow.Takes.of_bind polls
  rw [takes_clock clock, List.append_nil]
  refine ⟨started, rest, result, rfl, ?_, rfl⟩
  cases reachable : started.add? p.timeout with
  | none =>
      rw [reachable] at rounds
      obtain ⟨rfl, rfl⟩ := Flow.takes_done_iff.mp rounds
      exact .exhausted
  | some deadline =>
      rw [reachable] at rounds
      exact attemptsFrom_takes rounds

end

/-! ## The whole unregistration -/

theorem findPrivateCloud_takes {scope : Scope} {steps : List Step}
    {out : Except Failure (Option CloudRecord)}
    (h : (findPrivateCloud scope).run.Takes steps out) :
    ∃ answer, steps = [.call scope .listClouds answer] ∧ out = answer.map privateCloud? := by
  rcases Procedure.takes_call_bind h with ⟨e, rfl, rfl⟩ | ⟨clouds, rest, rfl, tail⟩
  · exact ⟨.error e, rfl, rfl⟩
  · obtain ⟨rfl, rfl⟩ := Procedure.takes_pure tail
    exact ⟨.ok clouds, rfl, rfl⟩

/-- The ways through an unregistration. -/
inductive UnregistrationPath (cluster : LocalCluster) (s : Settings) (interval : Duration)
    (clusterId : String) : List Step → Except Failure Unit → Prop
  | unacting {e : Failure} (unknown : knownScope cluster s = .error e) :
      UnregistrationPath cluster s interval clusterId [] (.error e)
  | unlisted {scope : Scope} {started : Instant} {polled : List Step} {failure : PollFailure}
      (acting : knownScope cluster s = .ok scope)
      (poll : PollPath (findPrivateCloud scope) interval polled (.error failure)) :
      UnregistrationPath cluster s interval clusterId (.now started :: polled)
        (.error (.unfinished failure))
  | homeless {scope : Scope} {started : Instant} {polled : List Step}
      {cloud : Option CloudRecord} (acting : knownScope cluster s = .ok scope)
      (poll : PollPath (findPrivateCloud scope) interval polled (.ok cloud))
      (absent : cloud.bind (·.id) = none) :
      UnregistrationPath cluster s interval clusterId (.now started :: polled)
        (.error (.notFound .privateCloud))
  | kept {scope : Scope} {started : Instant} {polled : List Step} {cloud : Option CloudRecord}
      {cloudId : String} {e : Failure} (acting : knownScope cluster s = .ok scope)
      (poll : PollPath (findPrivateCloud scope) interval polled (.ok cloud))
      (home : cloud.bind (·.id) = some cloudId) :
      UnregistrationPath cluster s interval clusterId
        (.now started :: (polled ++ [.call scope (.unmanage clusterId) (.error e)])) (.error e)
  | unmanaged {scope : Scope} {started : Instant} {polled : List Step}
      {cloud : Option CloudRecord} {cloudId : String} {out : Except Failure Unit}
      (acting : knownScope cluster s = .ok scope)
      (poll : PollPath (findPrivateCloud scope) interval polled (.ok cloud))
      (home : cloud.bind (·.id) = some cloudId) :
      UnregistrationPath cluster s interval clusterId
        (.now started :: (polled ++ [.call scope (.unmanage clusterId) (.ok ()),
          .call scope (.deleteCluster cloudId clusterId) out])) out

/-- An unregistration takes one of the ways listed, and no other. -/
theorem unregister_takes {cluster : LocalCluster} {s : Settings} {poll : PollPolicy}
    {clusterId : String} {steps : List Step} {out : Except Failure Unit}
    (h : (unregister cluster s poll clusterId).run.Takes steps out) :
    UnregistrationPath cluster s poll.interval clusterId steps out := by
  unfold unregister at h
  rw [scopeOf_eq] at h
  rcases Procedure.takes_ofExcept_bind h with ⟨e, unknown, rfl, rfl⟩ | ⟨scope, acting, acts⟩
  · exact .unacting unknown
  rcases Procedure.takes_bind acts with ⟨e, polls, rfl⟩ | ⟨first, cloud, rest, rfl, polls, goes⟩
  · obtain ⟨started, polled, result, rfl, path, result_eq⟩ := poll_takes polls
    cases result with
    | ok cloud => cases result_eq
    | error failure =>
        cases result_eq
        exact .unlisted acting path
  obtain ⟨started, polled, result, rfl, path, result_eq⟩ := poll_takes polls
  cases result with
  | error failure => cases result_eq
  | ok found =>
      cases result_eq
      cases home : cloud.bind (·.id) with
      | none =>
          rw [home] at goes
          obtain ⟨rfl, rfl⟩ := Procedure.takes_throw goes
          rw [List.append_nil]
          exact .homeless acting path home
      | some cloudId =>
          rw [home] at goes
          rcases Procedure.takes_call_bind goes with ⟨e, rfl, rfl⟩ | ⟨a, last, rfl, tail⟩
          · exact .kept acting path home
          · rw [Procedure.takes_call tail]
            exact .unmanaged acting path home

end Enrollment.Registration
