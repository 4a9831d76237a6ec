import Enrollment.Proofs.Inventory.Refusal
import Enrollment.Proofs.Registration.Path
import Enrollment.Proofs.Time.Budget

/-!
# Tokens that cannot be sent

A token with a control character in it cannot be sent in a header, so that every call under it is
refused at once. `Stops` says of a procedure that it comes to nothing in this way: it fails, and
leaves everything as it was. A registration stops with the refusal, and so does the question
whether a cluster is managed. An unregistration does not. It polls for the private cloud, and a
poll repeats what has failed, whatever the failure was: it takes as many pauses as its budget has
room for, and ends with a failure of its own. `PollPolicy.GivesUp` says where that is.
-/

namespace Enrollment

open Inventory Http

/-! ## Polls that never succeed -/

/-- Where a poll gives up none of whose attempts succeeds, when the clock shows `clock k` behind
`k` pauses: there is room for `n` pauses, and no further one. -/
inductive PollPolicy.GivesUp (p : PollPolicy) (operation : String) (clock : Nat → Instant)
    (n : Nat) : PollFailure → Prop
  | unreachable (late : (clock 0).add? p.timeout = none) (first : n = 0) :
      PollPolicy.GivesUp p operation clock n .outOfRange
  | spent {deadline : Instant} {failure : PollFailure}
      (reachable : (clock 0).add? p.timeout = some deadline)
      (room : ∀ k < n, p.verdict operation (clock 0) deadline (clock k) = none)
      (counted : n < PollPolicy.maxAttempts)
      (full : p.verdict operation (clock 0) deadline (clock n) = some failure) :
      PollPolicy.GivesUp p operation clock n failure
  | uncounted {deadline : Instant} (reachable : (clock 0).add? p.timeout = some deadline)
      (room : ∀ k < n, p.verdict operation (clock 0) deadline (clock k) = none)
      (last : n = PollPolicy.maxAttempts) :
      PollPolicy.GivesUp p operation clock n .outOfRange

/-- What the clock shows behind `n` pauses, when nothing but them takes time. -/
def Pacing.clock (pacing : Pacing) (started : Instant) (time : Duration) (n : Nat) : Instant :=
  (fun now => pacing.advance now time)^[n] started

theorem Pacing.clock_succ (pacing : Pacing) (started : Instant) (time : Duration) (n : Nat) :
    pacing.clock started time (n + 1) = pacing.advance (pacing.clock started time n) time :=
  Function.iterate_succ_apply' _ n started

theorem Pacing.sinceStart_clock_virtual (started : Instant) (time : Duration) (n : Nat) :
    (Pacing.virtual.clock started time n).sinceStart = started.sinceStart + n * time.toNanos := by
  induction n with
  | zero => simp [Pacing.clock]
  | succ n ih =>
      have step : (Pacing.virtual.clock started time (n + 1)).sinceStart =
          (Pacing.virtual.clock started time n).sinceStart + time.toNanos := by
        rw [Pacing.clock_succ]
        exact Instant.sinceStart_advance _ time
      rw [step, ih, Nat.succ_mul, Nat.add_assoc]

theorem PollPolicy.within_deadline_of_verdict {p : PollPolicy} {operation : String}
    {started deadline now : Instant} (room : p.verdict operation started deadline now = none) :
    now.sinceStart + p.interval.toNanos ≤ deadline.sinceStart := by
  by_cases shown : (now.advance p.interval).sinceStart < Instant.range
  · rw [verdict_of_shown shown] at room
    by_contra full
    rw [← Instant.sinceStart_advance] at full
    rw [if_neg full] at room
    cases room
  · rw [verdict_of_late (Nat.not_lt.mp shown)] at room
    cases room

/-- When pauses take exactly their time, those of a poll that gives up fit into its budget. -/
theorem PollPolicy.GivesUp.pauses_le {p : PollPolicy} {operation : String} {started : Instant}
    {n : Nat} {failure : PollFailure}
    (h : p.GivesUp operation (Pacing.virtual.clock started p.interval) n failure) :
    n * p.interval.toNanos ≤ p.timeout.toNanos := by
  have fits {deadline : Instant}
      (reachable : (Pacing.virtual.clock started p.interval 0).add? p.timeout = some deadline)
      (room : ∀ k < n, p.verdict operation (Pacing.virtual.clock started p.interval 0) deadline
        (Pacing.virtual.clock started p.interval k) = none) :
      n * p.interval.toNanos ≤ p.timeout.toNanos := by
    obtain ⟨rfl, -⟩ := Instant.add?_eq_some_iff.mp reachable
    cases n with
    | zero => simp
    | succ k =>
        have last := within_deadline_of_verdict (room k (Nat.lt_succ_self k))
        rw [Instant.sinceStart_advance, Pacing.sinceStart_clock_virtual,
          Pacing.sinceStart_clock_virtual] at last
        rw [Nat.succ_mul]
        omega
  cases h with
  | unreachable _ first => simp [first]
  | spent reachable room | uncounted reachable room => exact fits reachable room

namespace Registration

/-! ## Procedures that stop -/

variable {σ α β : Type} {h : Flow.Handler σ} {x : Procedure α} {e : Failure}

/-- In every state the procedure fails in this way, and leaves the state as it is. -/
def Stops (h : Flow.Handler σ) (x : Procedure α) (e : Failure) : Prop :=
  ∀ s, x.run.run h s = (.error e, s)

theorem run_read (h : Flow.Handler σ) (f : Instant → Flow α) (s : σ) :
    ((Flow.now .done).bind f).run h s = (f (h.now s)).run h s := rfl

theorem run_bind_of_error {f : α → Procedure β} {s t : σ}
    (first : x.run.run h s = (.error e, t)) : (x >>= f).run.run h s = (.error e, t) := by
  rw [Procedure.run_bind, Flow.run_bind_apply, first]
  rfl

theorem Stops.bind {f : α → Procedure β} (first : Stops h x e) : Stops h (x >>= f) e :=
  fun s => run_bind_of_error (first s)

theorem stops_call {scope : Scope} {c : Call} (fails : ∀ s, h.call scope c s = (.error e, s)) :
    Stops h (Procedure.call scope c) e := by
  intro s
  rw [Procedure.run_call, Flow.run_call, fails]
  rfl

theorem stops_callOr {missing : Missing} {scope : Scope} {c : Call}
    (fails : ∀ s, h.call scope c s = (.error e, s)) :
    Stops h (Procedure.callOr missing scope c) (Procedure.reportedAs missing e) := by
  intro s
  rw [Procedure.run_callOr, Flow.run_call, fails]
  rfl

/-- An attempt that stops is followed by a pause and by further attempts, or by nothing. -/
theorem run_attemptsFrom (stops : Stops h x e) (verdict : Instant → Option PollFailure)
    (interval : Duration) (left : Nat) (s : σ) :
    (PollPolicy.attemptsFrom verdict (Flow.now .done) (Flow.pause interval .done) x.run
        (left + 1)).run h s =
      match verdict (h.now s) with
      | some failure => (.error failure, s)
      | none => (PollPolicy.attemptsFrom verdict (Flow.now .done) (Flow.pause interval .done)
          x.run left).run h (h.pause interval s) := by
  refine (Flow.run_bind_apply h x.run _ s).trans ?_
  rw [stops s]
  refine (run_read h _ s).trans ?_
  cases verdict (h.now s) with
  | some failure => rfl
  | none => rfl

/-- Attempts that stop leave nothing but pauses, up to the point where the poll gives up. -/
theorem exists_run_attemptsFrom (stops : Stops h x e) (verdict : Instant → Option PollFailure)
    (interval : Duration) (left : Nat) (s : σ) :
    ∃ n failure, (PollPolicy.attemptsFrom verdict (Flow.now .done) (Flow.pause interval .done)
        x.run left).run h s = (.error failure, (h.pause interval)^[n] s) ∧
      (∀ k < n, verdict (h.now ((h.pause interval)^[k] s)) = none) ∧
      (n < left ∧ verdict (h.now ((h.pause interval)^[n] s)) = some failure ∨
        n = left ∧ failure = .outOfRange) := by
  induction left generalizing s with
  | zero => exact ⟨0, .outOfRange, rfl, fun _ never => absurd never (Nat.not_lt_zero _),
      .inr ⟨rfl, rfl⟩⟩
  | succ left ih =>
      rw [run_attemptsFrom stops]
      cases given : verdict (h.now s) with
      | some failure =>
          exact ⟨0, failure, rfl, fun _ never => absurd never (Nat.not_lt_zero _),
            .inl ⟨Nat.succ_pos left, given⟩⟩
      | none =>
          obtain ⟨n, failure, result, room, ending⟩ := ih (h.pause interval s)
          refine ⟨n + 1, failure, result, ?_, ?_⟩
          · intro k within
            cases k with
            | zero => exact given
            | succ k => exact room k (Nat.lt_of_succ_lt_succ within)
          · rcases ending with ⟨counted, full⟩ | ⟨rfl, ending⟩
            · exact .inl ⟨Nat.succ_lt_succ counted, full⟩
            · exact .inr ⟨rfl, ending⟩

/-- A poll of a procedure that stops takes pauses only, and ends with a failure of its own. -/
theorem exists_run_poll (stops : Stops h x e) (p : PollPolicy) (operation : String) (s : σ) :
    ∃ n failure, p.GivesUp operation (fun k => h.now ((h.pause p.interval)^[k] s)) n failure ∧
      (Procedure.poll p operation x).run.run h s =
        (.error (.unfinished failure), (h.pause p.interval)^[n] s) := by
  have ends {result : Except PollFailure α} {t : σ}
      (polled : (p.poll operation (Flow.now .done) (fun d => Flow.pause d .done) x.run).run h s =
        (result, t)) :
      (Procedure.poll p operation x).run.run h s = (result.mapError .unfinished, t) := by
    show (Flow.bind _ _).run h s = _
    rw [Flow.run_bind_apply, polled]
    rfl
  -- What follows the first reading is left to unification, for the reason given with
  -- `PollPolicy.verdict_eq`.
  have starts : (p.poll operation (Flow.now .done) (fun d => Flow.pause d .done) x.run).run h s =
      _ := run_read h _ s
  cases reachable : (h.now s).add? p.timeout with
  | none =>
      rw [reachable] at starts
      exact ⟨0, .outOfRange, .unreachable reachable rfl, ends starts⟩
  | some deadline =>
      rw [reachable] at starts
      obtain ⟨n, failure, result, room, ⟨counted, full⟩ | ⟨last, rfl⟩⟩ :=
        exists_run_attemptsFrom stops (p.verdict operation (h.now s) deadline) p.interval
          PollPolicy.maxAttempts s
      · exact ⟨n, failure, .spent reachable room counted full, ends (starts.trans result)⟩
      · exact ⟨n, .outOfRange, .uncounted reachable room last, ends (starts.trans result)⟩

/-! ## The operations -/

section

variable {net : Network σ} {client : Client} {scope : Scope} {cluster : LocalCluster}
variable {s : Settings} {token : String}

/-- Pauses leave the server as it is. -/
theorem iterate_pause [Url.Idna] (net : Network σ) (client : Client) (time : Duration) (n : Nat)
    (wire : Wire σ) :
    ((overHttp net client).pause time)^[n] wire =
      { wire with
        now := net.pacing.clock wire.now time n
        events := wire.events ++ List.replicate n (.pause time) } := by
  induction n with
  | zero => simp [Pacing.clock]
  | succ n ih =>
      rw [Function.iterate_succ_apply', ih, Pacing.clock_succ, List.replicate_succ',
        ← List.append_assoc]
      rfl

/-- A control character other than the tab keeps a token from being sent. -/
theorem unsendable_of_control {account : String} {c : Char} (inside : c ∈ token.toList)
    (control : c ≠ '\t' ∧ (c.toNat < 0x20 ∨ c.toNat = 0x7F)) :
    ¬ Client.Sendable ⟨account, token⟩ := by
  intro sendable
  have within : c ∈ (Client.bearer token).toList := by
    simp only [Client.bearer, String.toList_append, List.mem_append]
    exact .inr inside
  have shown := List.all_eq_true.mp sendable c within
  simp only [Bool.or_eq_true, Bool.and_eq_true, decide_eq_true_eq] at shown
  rcases shown with tab | visible
  · exact control.1 tab
  · omega

variable [Url.Idna]

theorem call_of_unsendable {c : Call} {plan : Plan} (planned : c.plan = .ok plan)
    (unsendable : ¬ Client.Sendable scope) (wire : Wire σ) :
    (overHttp net client).call scope c wire = (.error (.refused .tokenNotSendable), wire) :=
  Client.perform_of_unsendable planned unsendable

theorem stops_findPrivateCloud (unsendable : ¬ Client.Sendable scope) :
    Stops (overHttp net client) (findPrivateCloud scope) (.refused .tokenNotSendable) :=
  (stops_call (call_of_unsendable rfl unsendable)).bind

theorem stops_resolveCloud (unsendable : ¬ Client.Sendable scope) (configured : Option String) :
    Stops (overHttp net client) (resolveCloud scope configured) (.refused .tokenNotSendable) := by
  rw [resolveCloud]
  split
  · next id _ =>
    have stops : Stops (overHttp net client) (Procedure.callOr (.cloud id) scope (.getCloud id))
        (Procedure.reportedAs (.cloud id) (.refused .tokenNotSendable)) :=
      stops_callOr (call_of_unsendable rfl unsendable)
    exact stops.bind
  · exact (stops_findPrivateCloud unsendable).bind

/-- A registration under a token that cannot be sent is refused. -/
theorem stops_register {scope : Scope} {identity : String}
    (acting : knownScope cluster s = .ok scope) (self : cluster.identity = .ok identity)
    (unsendable : ¬ Client.Sendable scope) :
    Stops (overHttp net client) (register cluster s) (.refused .tokenNotSendable) := by
  rw [register, scopeOf_eq, acting, Procedure.ofExcept_ok_bind, self]
  exact (stops_resolveCloud unsendable s.cloudId).bind

/-- The question whether a cluster is managed is refused likewise. -/
theorem stops_isManaged {scope : Scope} (acting : knownScope cluster s = .ok scope)
    (unsendable : ¬ Client.Sendable scope) (clusterId : String) :
    Stops (overHttp net client) (isManaged cluster s clusterId) (.refused .tokenNotSendable) := by
  rw [isManaged, scopeOf_eq, acting, Procedure.ofExcept_ok_bind]
  exact (stops_call (call_of_unsendable rfl unsendable)).bind

/-- An unregistration ends with its poll. -/
theorem exists_run_unregister {scope : Scope} (acting : knownScope cluster s = .ok scope)
    (unsendable : ¬ Client.Sendable scope) (poll : PollPolicy) (clusterId : String)
    (wire : Wire σ) :
    ∃ n failure, poll.GivesUp Call.listClouds.operation
        (net.pacing.clock wire.now poll.interval) n failure ∧
      (unregister cluster s poll clusterId).run.run (overHttp net client) wire =
        (.error (.unfinished failure),
          { wire with
            now := net.pacing.clock wire.now poll.interval n
            events := wire.events ++ List.replicate n (.pause poll.interval) }) := by
  have stops : Stops (overHttp net client) (findPrivateCloud scope) (.refused .tokenNotSendable) :=
    stops_findPrivateCloud unsendable
  obtain ⟨n, failure, ending, polled⟩ :=
    exists_run_poll stops poll Call.listClouds.operation wire
  simp only [iterate_pause] at ending polled
  refine ⟨n, failure, ending, ?_⟩
  rw [unregister, scopeOf_eq, acting, Procedure.ofExcept_ok_bind]
  exact run_bind_of_error polled

end

/-- Under a token with a control character in it, no operation sends a request. A registration and
the question whether a cluster is managed are refused, which is terminal, and make no pause. An
unregistration goes on with its poll until that gives up: it pauses as often as the budget has
room for, and ends with the failure of the poll, which is not terminal. -/
theorem unsendable_token_sends_nothing [Url.Idna] {σ : Type} (net : Network σ) (client : Client)
    (cluster : LocalCluster) (s : Settings) (wire : Wire σ) {identity token : String} {c : Char}
    (account : s.account ≠ "") (secret : cluster.apiToken s.tokenRef = .ok token)
    (self : cluster.identity = .ok identity) (inside : c ∈ token.toList)
    (control : c ≠ '\t' ∧ (c.toNat < 0x20 ∨ c.toNat = 0x7F)) :
    ((register cluster s).run.run (overHttp net client) wire =
        (.error (.refused .tokenNotSendable), wire) ∧
      (∀ clusterId, (isManaged cluster s clusterId).run.run (overHttp net client) wire =
        (.error (.refused .tokenNotSendable), wire)) ∧
      (Failure.refused .tokenNotSendable).isTerminal = true) ∧
    ∀ poll clusterId, ∃ n failure,
      poll.GivesUp Call.listClouds.operation (net.pacing.clock wire.now poll.interval) n failure ∧
      (unregister cluster s poll clusterId).run.run (overHttp net client) wire =
        (.error (.unfinished failure),
          { wire with
            now := net.pacing.clock wire.now poll.interval n
            events := wire.events ++ List.replicate n (.pause poll.interval) }) ∧
      (Failure.unfinished failure).isTerminal = false := by
  have acting := knownScope_of_token account secret
  have unsendable : ¬ Client.Sendable ⟨s.account, token⟩ := unsendable_of_control inside control
  refine ⟨⟨stops_register acting self unsendable wire, ?_, rfl⟩, ?_⟩
  · intro clusterId
    exact stops_isManaged acting unsendable clusterId wire
  · intro poll clusterId
    obtain ⟨n, failure, ending, result⟩ :=
      exists_run_unregister acting unsendable poll clusterId wire
    exact ⟨n, failure, ending, result, rfl⟩

/-- A token with a line break in it is refused. -/
theorem token_with_break_is_refused :
    letI := Url.Idna.asciiOnly
    let cluster : LocalCluster := ⟨fun _ => .ok "a\nb", .ok {}, .ok "identity"⟩
    let net : Network Unit := ⟨Server.unreachable, .virtual⟩
    ('\n' ≠ '\t' ∧ ('\n'.toNat < 0x20 ∨ '\n'.toNat = 0x7F)) ∧
      (register cluster { account := "a" }).run.run (overHttp net (Client.ofHost "http://h"))
        { server := () } = (.error (.refused .tokenNotSendable), { server := () }) := by
  let := Url.Idna.asciiOnly
  intro cluster net
  have control : '\n' ≠ '\t' ∧ ('\n'.toNat < 0x20 ∨ '\n'.toNat = 0x7F) := by decide
  have sent := unsendable_token_sends_nothing net (Client.ofHost "http://h") cluster
    { account := "a" } { server := () } (by decide) rfl rfl
    (by decide : '\n' ∈ "a\nb".toList) control
  exact ⟨control, sent.1.1⟩

/-- An unregistration under a token with a line break in it is not refused: it pauses ten times for
three seconds, and ends with a failure that is not terminal. -/
theorem unsendable_token_is_polled :
    letI := Url.Idna.asciiOnly
    let cluster : LocalCluster := ⟨fun _ => .ok "a\nb", .ok {}, .ok "identity"⟩
    let net : Network (List Cue) := ⟨Server.scripted, .virtual⟩
    let after := (unregister cluster { account := "a" } .standard "k").run.run
      (overHttp net (Client.ofHost "http://h")) { server := [] }
    after.1 = .error (.unfinished (.timedOut ⟨"ListClouds", Duration.ofSeconds 30⟩)) ∧
    after.1.mapError Failure.isTerminal = .error false ∧
    after.2.events = List.replicate 10 (.pause (Duration.ofSeconds 3)) := by
  decide +kernel

end Registration

end Enrollment
