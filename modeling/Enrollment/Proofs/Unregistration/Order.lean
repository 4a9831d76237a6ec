import Enrollment.Proofs.Inventory.Classification
import Enrollment.Proofs.Registration.Budget
import Enrollment.Proofs.Unregistration.Path

/-!
# What an unregistration may send

Removing a cluster takes two requests that cannot be taken back, behind a poll whose length
depends on what comes back and when. The log of an unregistration therefore has three parts. The
first one is the poll, which ends with the first listing that can be read; the other two are the
requests themselves, each of them sent once at most. `Withdrawal` says what stands in front of
each request, and what it means that the unregistration succeeds or fails.
-/

namespace Enrollment

open Inventory Http

/-- Nothing has come of a search: it has not ended in time, or what was sought is not there. -/
def Failure.IsFruitless : Failure → Prop
  | .unfinished _ | .notFound _ => True
  | _ => False

theorem Failure.OfRequest.not_fruitless {e : Failure} (h : e.OfRequest) : ¬ e.IsFruitless := by
  cases e with
  | unfinished | notFound => exact h.elim
  | _ => exact id

namespace Registration

section

variable {client : Client} {scope : Scope} {call : Call} {plan : Plan} {log rest : List Event}
variable {steps : List Step} {interval : Duration}

/-! ## Calls that are attempted once -/

/-- A call that is not to be repeated succeeds if and only if the one exchange that it leaves is
a reply that the call accepts, and that holds its answer. -/
theorem Leaves.ok_iff [Url.Idna] {answer : Except Failure call.Answer}
    (h : Leaves client (.call scope call answer) log) (std : client.Standard)
    (planned : call.plan = .ok plan) (single : plan.repeatable = false) (a : call.Answer) :
    answer = .ok a ↔ ∃ request reply, log = [.exchange request (.reply reply)] ∧
      call.Accepts reply.status ∧ call.valueOf reply.body = .ok a ∧ ¬ call.Nameless a := by
  have policy : client.policy plan = .single := by simp [Client.policy, single, std.reads]
  have unanswered {e : Failure} (failed : answer = .error e)
      (silent : ∀ request reply, log ≠ [.exchange request (.reply reply)]) :
      answer = .ok a ↔ ∃ request reply, log = [.exchange request (.reply reply)] ∧
        call.Accepts reply.status ∧ call.valueOf reply.body = .ok a ∧ ¬ call.Nameless a := by
    constructor
    · intro succeeded
      rw [failed] at succeeded
      cases succeeded
    · rintro ⟨request, reply, replied, -⟩
      exact absurd replied (silent request reply)
  rcases h.of_call with ⟨rfl, why, refused⟩ |
    ⟨other, same, ⟨cause, e, failed, series⟩ | ⟨reply, read, series⟩⟩
  · exact unanswered refused (by simp)
  · cases planned.symm.trans same
    rw [policy] at series
    refine unanswered failed fun request reply replied => ?_
    subst replied
    cases series with
    | last attempt =>
        generalize outcome : Except.error cause = result at attempt
        cases attempt with
        | sent arrival => cases outcome
  · cases planned.symm.trans same
    rw [policy] at series
    obtain ⟨request, rfl⟩ : ∃ request, log = [.exchange request (.reply reply)] := by
      cases series with
      | last attempt => exact attempt.replied
    have verdict : call.Verdict (client.target scope call plan) reply answer :=
      read ▸ Call.interpret_verdict planned
    have classified := verdict.classified.ok a
    rw [classified]
    simp

/-- The one request in the log has been answered by a listing of these clouds. -/
def Shows (log : List Event) (clouds : List CloudRecord) : Prop :=
  ∃ request reply, log = [.exchange request (.reply reply)] ∧ reply.status = .ok ∧
    Listing.clouds.decode reply.body = .ok ⟨clouds⟩

/-- The one request in the log has been answered as carried out. -/
def Removed (log : List Event) : Prop :=
  ∃ request reply, log = [.exchange request (.reply reply)] ∧ reply.status = .noContent

theorem not_shows_nil (clouds : List CloudRecord) : ¬ Shows [] clouds := by
  rintro ⟨_, _, replied, -⟩
  cases replied

theorem not_removed_nil : ¬ Removed [] := by
  rintro ⟨_, _, replied, -⟩
  cases replied

theorem status_eq_iff {status wanted : Status} : status = wanted ↔ status.code = wanted.code := by
  cases status
  cases wanted
  simp

theorem Leaves.shows_iff [Url.Idna] {answer : Except Failure (List CloudRecord)}
    {clouds : List CloudRecord}
    (h : Leaves client (.call scope .listClouds answer) log) (std : client.Standard) :
    answer = .ok clouds ↔ Shows log clouds := by
  have read (body : Bytes) : Call.listClouds.valueOf body = .ok clouds ↔
      Listing.clouds.decode body = .ok ⟨clouds⟩ := by
    change (Listing.clouds.decode body).map (·.items) = .ok clouds ↔ _
    cases Listing.clouds.decode body with
    | error fault => simp [Except.map]
    | ok listing =>
        cases listing
        simp [Except.map]
  rw [h.ok_iff std rfl rfl clouds]
  simp only [Shows, status_eq_iff, read, Call.Nameless, not_false_eq_true, and_true]
  rfl

theorem Leaves.unmanaged_iff [Url.Idna] {id : String} {answer : Except Failure Unit}
    (h : Leaves client (.call scope (.unmanage id) answer) log) (std : client.Standard) :
    answer = .ok () ↔ Removed log := by
  rw [h.ok_iff std rfl rfl ()]
  simp only [Removed, status_eq_iff, Call.valueOf, Call.Nameless, not_false_eq_true, and_true]
  rfl

theorem Leaves.deleted_iff [Url.Idna] {cloudId id : String} {answer : Except Failure Unit}
    (h : Leaves client (.call scope (.deleteCluster cloudId id) answer) log)
    (std : client.Standard) : answer = .ok () ↔ Removed log := by
  rw [h.ok_iff std rfl rfl ()]
  simp only [Removed, status_eq_iff, Call.valueOf, Call.Nameless, not_false_eq_true, and_true]
  rfl

/-! ## The poll -/

/-- The log of a poll for the clouds, and the listing that ended it, if one did. In each round
one listing is asked for, once at most; another round follows, after the interval, only when the
clouds have not been shown. -/
inductive Polled [Url.Idna] (client : Client) (scope : Scope) (interval : Duration) :
    List Event → Option (List CloudRecord) → Prop
  | shown {log : List Event} {clouds : List CloudRecord}
      (round : Once (client.order scope (.read .clouds false)) log) (shows : Shows log clouds) :
      Polled client scope interval log (some clouds)
  | unshown {log : List Event} (round : Once (client.order scope (.read .clouds false)) log)
      (fails : ∀ clouds, ¬ Shows log clouds) : Polled client scope interval log none
  | again {log rest : List Event} {last : Option (List CloudRecord)}
      (round : Once (client.order scope (.read .clouds false)) log)
      (fails : ∀ clouds, ¬ Shows log clouds) (more : Polled client scope interval rest last) :
      Polled client scope interval (log ++ .pause interval :: rest) last

/-- A round that fails asks for one listing, and is not shown the clouds. -/
theorem round_of_error [Url.Idna] {e : Failure}
    (round : (findPrivateCloud scope).run.Takes steps (.error e))
    (std : client.Standard) (logged : Logged client steps log) :
    Once (client.order scope (.read .clouds false)) log ∧ ∀ clouds, ¬ Shows log clouds := by
  obtain ⟨answer, rfl, result⟩ := findPrivateCloud_takes round
  have leaves := logged_singleton_iff.mp logged
  refine ⟨leaves.once std rfl rfl, fun clouds shows => ?_⟩
  rw [(leaves.shows_iff std).mpr shows] at result
  cases result

/-- The log of the rounds of a poll, the readings of the clock left out. -/
theorem PollPath.polled [Url.Idna] {out : Except PollFailure (Option CloudRecord)}
    (path : PollPath (findPrivateCloud scope) interval steps out) (std : client.Standard)
    (logged : Logged client steps log) :
    ∃ last, Polled client scope interval log last ∧ out.toOption = last.map privateCloud? := by
  induction path generalizing log with
  | exhausted =>
      cases logged
      exact ⟨none, .unshown .unsent not_shows_nil, rfl⟩
  | succeeded round =>
      obtain ⟨answer, rfl, result⟩ := findPrivateCloud_takes round
      have leaves := logged_singleton_iff.mp logged
      cases answer with
      | error e => cases result
      | ok clouds =>
          cases result
          have shows := (leaves.shows_iff std).mp rfl
          exact ⟨some clouds, .shown (leaves.once std rfl rfl) shows, rfl⟩
  | abandoned round =>
      obtain ⟨front, back, rfl, left, right⟩ := logged_append_iff.mp logged
      cases logged_singleton_iff.mp right
      obtain ⟨once, fails⟩ := round_of_error round std left
      rw [List.append_nil]
      exact ⟨none, .unshown once fails, rfl⟩
  | again round _ ih =>
      obtain ⟨front, back, rfl, left, right⟩ := logged_append_iff.mp logged
      obtain ⟨once, fails⟩ := round_of_error round std left
      cases right with
      | cons first more =>
          cases first
          cases more with
          | cons second others =>
              cases second
              obtain ⟨last, polled, same⟩ := ih others
              exact ⟨last, .again once fails polled, same⟩

/-! ## The whole unregistration -/

/-- The private cloud of a listing: the first one that is private and has an id. -/
def HomeIn (clouds : List CloudRecord) (cloudId : String) : Prop :=
  cloudId ≠ "" ∧ ∃ cloud, cloud.id = some cloudId ∧
    clouds.find? (fun cloud => cloud.isPrivate && cloud.hasId) = some cloud

/-- What an unregistration sends, in three parts, and what it comes to. `last` is the listing
that ended the poll. The cluster is unmanaged only when that listing shows the private cloud, and
deleted only from this cloud and when it has been unmanaged. The unregistration succeeds if and
only if both requests have been answered as carried out; when it gives up polling, or finds
something missing, it has sent neither. -/
structure Withdrawal [Url.Idna] (client : Client) (scope : Scope) (interval : Duration)
    (clusterId : String) (last : Option (List CloudRecord)) (polled unmanaged deleted : List Event)
    (out : Except Failure Unit) : Prop where
  polls : Polled client scope interval polled last
  unmanages : Once (client.order scope (.delete (.managedCluster clusterId))) unmanaged
  listed : unmanaged ≠ [] → ∃ clouds cloudId, last = some clouds ∧ HomeIn clouds cloudId
  deletes : deleted ≠ [] → Removed unmanaged ∧ ∃ clouds cloudId, last = some clouds ∧
    HomeIn clouds cloudId ∧
    Once (client.order scope (.delete (.cloudCluster cloudId clusterId))) deleted
  succeeds : out = .ok () ↔ Removed unmanaged ∧ Removed deleted
  spares : ∀ e, out = .error e → e.IsFruitless → unmanaged = [] ∧ deleted = []

/-- When neither request is sent, the unregistration has failed. -/
theorem Withdrawal.of_polled [Url.Idna] {clusterId : String} {last : Option (List CloudRecord)}
    {e : Failure} (polled : Polled client scope interval log last) :
    Withdrawal client scope interval clusterId last log [] [] (.error e) := by
  constructor
  case polls => exact polled
  case unmanages => exact .unsent
  case listed => exact fun sent => absurd rfl sent
  case deletes => exact fun sent => absurd rfl sent
  case succeeds => simp [not_removed_nil]
  case spares => exact fun _ _ _ => ⟨rfl, rfl⟩

/-- The cloud that a poll has come to is the private cloud of the listing that ended it. -/
theorem homeIn_of_polled {cloud : Option CloudRecord} {cloudId : String}
    {last : Option (List CloudRecord)} (same : some cloud = last.map privateCloud?)
    (home : cloud.bind (·.id) = some cloudId) :
    ∃ clouds, last = some clouds ∧ HomeIn clouds cloudId := by
  obtain ⟨clouds, rfl, found⟩ := Option.map_eq_some_iff.mp same.symm
  obtain ⟨r, rfl, named⟩ := Option.bind_eq_some_iff.mp home
  have shown := List.find?_some found
  refine ⟨clouds, rfl, ?_, r, named, found⟩
  rintro rfl
  simp [CloudRecord.hasId, named] at shown

/-- An unregistration sends what it sends in order. -/
theorem UnregistrationPath.withdrawal [Url.Idna] {cluster : LocalCluster} {s : Settings}
    {clusterId : String} {out : Except Failure Unit}
    (path : UnregistrationPath cluster s interval clusterId steps out)
    (std : client.Standard) (logged : Logged client steps log) :
    ∃ scope last polled unmanaged deleted, scope.account = s.account ∧
      log = polled ++ (unmanaged ++ deleted) ∧
      Withdrawal client scope interval clusterId last polled unmanaged deleted out := by
  cases path with
  | unacting =>
      cases logged
      have nothing : Polled client ⟨s.account, ""⟩ interval [] none :=
        .unshown .unsent not_shows_nil
      exact ⟨_, none, [], [], [], rfl, rfl, .of_polled nothing⟩
  | unlisted acting poll | homeless acting poll =>
      cases logged with
      | cons first more =>
          cases first
          obtain ⟨last, polled, -⟩ := poll.polled std more
          have account := account_of_knownScope acting
          exact ⟨_, last, _, [], [], account, (List.append_nil _).symm, .of_polled polled⟩
  | kept acting poll home =>
      cases logged with
      | cons first more =>
          cases first
          obtain ⟨front, back, rfl, left, right⟩ := logged_append_iff.mp more
          obtain ⟨last, polled, same⟩ := poll.polled std left
          have leaves := logged_singleton_iff.mp right
          have account := account_of_knownScope acting
          refine ⟨_, last, front, back, [], account, by rw [List.append_nil]; rfl, ?_⟩
          constructor
          case polls => exact polled
          case unmanages => exact leaves.once std rfl rfl
          case listed =>
            obtain ⟨clouds, listed, home⟩ := homeIn_of_polled same home
            exact fun _ => ⟨clouds, _, listed, home⟩
          case deletes => exact fun sent => absurd rfl sent
          case succeeds => simp [not_removed_nil]
          case spares =>
            intro e failed fruitless
            cases failed
            exact absurd fruitless (leaves.ofRequest id).not_fruitless
  | unmanaged acting poll home =>
      cases logged with
      | cons first more =>
          cases first
          obtain ⟨front, back, rfl, left, right⟩ := logged_append_iff.mp more
          obtain ⟨last, polled, same⟩ := poll.polled std left
          have account := account_of_knownScope acting
          cases right with
          | @cons _ _ unmanaged rest second others =>
              have leaves := logged_singleton_iff.mp others
              have removed := (second.unmanaged_iff std).mp rfl
              obtain ⟨clouds, listed, home⟩ := homeIn_of_polled same home
              refine ⟨_, last, front, unmanaged, rest, account, rfl, ?_⟩
              constructor
              case polls => exact polled
              case unmanages => exact second.once std rfl rfl
              case listed => exact fun _ => ⟨clouds, _, listed, home⟩
              case deletes =>
                exact fun _ => ⟨removed, clouds, _, listed, home, leaves.once std rfl rfl⟩
              case succeeds => rw [leaves.deleted_iff std, and_iff_right removed]
              case spares =>
                intro e failed fruitless
                cases failed
                exact absurd fruitless (leaves.ofRequest id).not_fruitless

end

/-- Unregistration is ordered and guarded. Whatever comes back to a client with the standard
policies, an unregistration first polls for the clouds, until a listing of them can be read. It
sends the request that unmanages the cluster once at most, and only when that listing has a
private cloud with an id; it sends the request that deletes the cluster once at most, only from
the first such cloud, and only when the cluster has been unmanaged, with the status 204. It
succeeds if and only if both have been answered with 204; and when it runs out of time, or finds
no private cloud, it has sent neither. -/
theorem unregister_is_ordered [Url.Idna] {σ : Type} (net : Network σ) (hostUrl : String)
    (cluster : LocalCluster) (s : Settings) (poll : PollPolicy) (clusterId : String)
    (wire : Wire σ) :
    let client := Client.ofHost hostUrl
    let after := (unregister cluster s poll clusterId).run.run (overHttp net client) wire
    ∃ scope last polled unmanaged deleted, scope.account = s.account ∧
      after.2.events = wire.events ++ (polled ++ (unmanaged ++ deleted)) ∧
      Withdrawal client scope poll.interval clusterId last polled unmanaged deleted after.1 := by
  intro client after
  obtain ⟨steps, log, takes, events, logged⟩ :=
    exists_takes_logged net client (unregister cluster s poll clusterId).run wire
  obtain ⟨scope, last, polled, unmanaged, deleted, account, rfl, withdrawal⟩ :=
    (unregister_takes takes).withdrawal (Client.standard_ofHost hostUrl) logged
  exact ⟨scope, last, polled, unmanaged, deleted, account, events, withdrawal⟩

end Registration

end Enrollment
