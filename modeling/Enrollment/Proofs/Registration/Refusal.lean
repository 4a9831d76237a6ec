import Enrollment.Proofs.Inventory.Refusal
import Enrollment.Proofs.Registration.Conflict
import Enrollment.Proofs.Registration.Naming
import Enrollment.Proofs.Unregistration.Path

/-!
# When an operation is refused

A refusal is to say that nothing has been sent. An operation that is refused for its account or
its token has indeed sent nothing, and neither has an unregistration nor a question that is
refused at all. A registration has three checks that come late: whether the cluster has an
identity, which is looked at behind the cloud; whether the cloud that it has created came back
with an id; and whether the record that it is about to promote has one, which is looked at
behind the update of this record. `Belated` lists them, with what has been sent by then.
-/

namespace Enrollment.Registration

open Inventory Http

section

variable {client : Client} {cluster : LocalCluster} {s : Settings} {scope : Scope}
variable {identity id cloudId clusterId name : String} {configured : Option String}
variable {steps : List Step} {log : List Event} {why : Refusal} {request : Request}

/-! ## The phases of a registration -/

theorem refused_of_reportedAs {missing : Missing} {e : Failure}
    (h : Procedure.reportedAs missing e = .refused why) : e = .refused why := by
  cases e with
  | notFound => cases h
  | _ => exact h

theorem CloudPath.sendable (path : CloudPath scope configured steps (.ok cloudId))
    (vetted : ∀ step ∈ steps, step.Vetted) : Client.Sendable scope := by
  cases path with
  | configured | found | created => exact (vetted _ List.mem_cons_self).1

/-- A cloud is refused before anything is sent, or it has been created without an id. -/
theorem CloudPath.refused [Url.Idna]
    (path : CloudPath scope configured steps (.error (.refused why)))
    (vetted : ∀ step ∈ steps, step.Vetted) (logged : Logged client steps log) :
    log = [] ∨ why = .createdCloudWithoutId ∧ configuredId? configured = none ∧
      ∃ cloud, .call scope (.createCloud .privateCloud) (.ok cloud) ∈ steps ∧
        configuredId? cloud.id = none := by
  generalize outcome : Except.error (Failure.refused why) = out at path
  cases path with
  | @missing _ e =>
      obtain rfl := refused_of_reportedAs (Except.error.inj outcome).symm
      exact .inl (logged_singleton_iff.mp logged).nil_of_refused
  | unlisted =>
      cases outcome
      exact .inl (logged_singleton_iff.mp logged).nil_of_refused
  | uncreated =>
      cases outcome
      have sendable := (vetted _ List.mem_cons_self).1
      have refused := vetted _ (List.mem_cons_of_mem _ List.mem_cons_self)
      exact absurd sendable (Step.Vetted.unsendable refused rfl)
  | unnamed free _ unnamed =>
      cases outcome
      exact .inr ⟨rfl, free, _, List.mem_cons_of_mem _ List.mem_cons_self, unnamed⟩
  | configured | found | created => cases outcome

/-- A cluster is refused when it has no identity, before it is looked for. -/
theorem ClusterPath.refused (sendable : Client.Sendable scope)
    (path : ClusterPath scope cloudId configured identity name steps (.error (.refused why)))
    (vetted : ∀ step ∈ steps, step.Vetted) :
    identity = "" ∧ why = .identityMissing ∧ steps = [] := by
  generalize outcome : Except.error (Failure.refused why) = out at path
  cases path with
  | anonymous empty =>
      cases outcome
      exact ⟨empty, rfl, rfl⟩
  | configured _ _ path =>
      cases path with
      | missing =>
          obtain rfl := refused_of_reportedAs (Except.error.inj outcome).symm
          have refused := vetted _ List.mem_cons_self
          exact absurd sendable (Step.Vetted.unsendable refused rfl)
      | unlisted =>
          cases outcome
          have refused := vetted _ (List.mem_cons_of_mem _ List.mem_cons_self)
          exact absurd sendable (Step.Vetted.unsendable refused rfl)
      | unfit | rivalled | registered | adopted => cases outcome
  | byIdentity _ _ path =>
      cases path with
      | unlisted =>
          cases outcome
          have refused := vetted _ List.mem_cons_self
          exact absurd sendable (Step.Vetted.unsendable refused rfl)
      | uncreated =>
          cases outcome
          have refused := vetted _ (List.mem_cons_of_mem _ List.mem_cons_self)
          exact absurd sendable (Step.Vetted.unsendable refused rfl)
      | unfit | registered | adopted | created => cases outcome

/-- A record that has been created has an id. -/
theorem ClusterPath.named_created {r : ClusterRecord}
    (path : ClusterPath scope cloudId configured identity name steps (.ok (.created r)))
    (vetted : ∀ step ∈ steps, step.Vetted) : r.idText ≠ "" := by
  cases path with
  | configured _ _ path => cases path
  | byIdentity _ _ path =>
      cases path with
      | created => exact (vetted _ (List.mem_cons_of_mem _ List.mem_cons_self)).2

/-- A record is refused when it has no id, behind its update. -/
theorem PromotionPath.refused {version : ClusterVersion} {resolution : Resolution}
    (sendable : Client.Sendable scope)
    (named : ∀ r, resolution = .created r → r.idText ≠ "")
    (path : PromotionPath scope s cloudId identity version resolution steps
      (.error (.refused why)))
    (vetted : ∀ step ∈ steps, step.Vetted) :
    why = .promotionWithoutId ∧ ∃ r, resolution = .adopted r ∧ r.idText = "" := by
  have promotes (r : ClusterRecord)
      (refused : (Step.call scope (promotionCall s cloudId identity version r)
        (.error (.refused why))).Vetted) : why = .promotionWithoutId ∧ r.idText = "" := by
    have unplanned : (if r.idText.isEmpty then .error .promotionWithoutId
      else .ok _ : Except Refusal Plan) = .error why := refused.unplanned sendable
    split at unplanned
    · next empty => exact ⟨(Except.error.inj unplanned).symm, String.isEmpty_iff.mp empty⟩
    · cases unplanned
  cases path with
  | unrefreshed =>
      have refused := vetted _ List.mem_cons_self
      exact absurd sendable (Step.Vetted.unsendable refused rfl)
  | @refreshed r answer _ result =>
      cases answer with
      | ok a => cases result
      | error e =>
          cases result
          have refused := vetted _ (List.mem_cons_of_mem _ List.mem_cons_self)
          obtain ⟨rfl, unnamed⟩ := promotes r refused
          exact ⟨rfl, r, rfl, unnamed⟩
  | @fresh r answer _ result =>
      cases answer with
      | ok a => cases result
      | error e =>
          cases result
          obtain ⟨-, unnamed⟩ := promotes r (vetted _ List.mem_cons_self)
          exact absurd unnamed (named r rfl)

/-! ## The whole registration -/

/-- A refusal that comes late, and what has been sent by then: no more than what is read, and the
private cloud where none is configured; and for a pending record that has been shown without an
id, also its update. -/
inductive Belated [Url.Idna] (client : Client) (cluster : LocalCluster) (s : Settings)
    (log : List Event) : Refusal → Prop
  | anonymous (self : cluster.identity = .ok "") (sent : Untouched client s log) :
      Belated client cluster s log .identityMissing
  | unnamedCloud {reply : Reply} {cloud : CloudRecord} (free : configuredId? s.cloudId = none)
      (created : Answered client s.account .post .clouds reply log)
      (status : reply.status = .created) (body : CloudRecord.decode reply.body = .ok cloud)
      (unnamed : configuredId? cloud.id = none) (sent : Untouched client s log) :
      Belated client cluster s log .createdCloudWithoutId
  | unnamedCluster (shown : UnnamedShown client cluster s .promotable log)
      (sent : ∀ request ∈ requests log, request.method = .get ∨
        configuredId? s.cloudId = none ∧ client.Addresses s.account .post .clouds request ∨
        ∃ cloudId, client.Addresses s.account .put (.cloudCluster cloudId "") request) :
      Belated client cluster s log .promotionWithoutId

/-- A cloud is posted where none is configured. -/
theorem RegistrationPath.posts_free [Url.Idna] {out : Except Failure String}
    (path : RegistrationPath cluster s steps out) {call : Call}
    {answer : Except Failure call.Answer} (inside : .call scope call answer ∈ steps)
    (spares : ¬ call.WritesCluster) (sends : client.Sends scope call request) :
    request.method = .get ∨
      configuredId? s.cloudId = none ∧ client.Addresses s.account .post .clouds request := by
  rcases sends.of_spares spares with get | ⟨⟨cloud, rfl⟩, posted⟩
  · exact .inl get
  · obtain ⟨before, after, split⟩ := List.append_of_mem inside
    obtain ⟨acting, free, -⟩ := path.warranted before _ after split
    exact .inr ⟨free, acting ▸ posted⟩

/-- A record that has been found is not written to by then. -/
theorem ClusterPath.spares_adopted {r : ClusterRecord}
    (path : ClusterPath scope cloudId configured identity name steps (.ok (.adopted r))) :
    ∀ step ∈ steps, ¬ step.WritesCluster := by
  cases path with
  | configured _ _ path =>
      cases path with
      | adopted => simp [Step.WritesCluster, Call.WritesCluster]
  | byIdentity _ _ path =>
      cases path with
      | adopted => simp [Step.WritesCluster, Call.WritesCluster]

/-- What is sent for the promotion of a record without an id is its update. -/
theorem PromotionPath.sends_unnamed [Url.Idna] {version : ClusterVersion} {r : ClusterRecord}
    {out : Except Failure String} {call : Call} {answer : Except Failure call.Answer}
    (acting : scope.account = s.account) (unnamed : r.idText = "")
    (path : PromotionPath scope s cloudId identity version (.adopted r) steps out)
    {other : Scope} (inside : .call other call answer ∈ steps)
    (sends : client.Sends other call request) :
    ∃ cloudId, client.Addresses s.account .put (.cloudCluster cloudId "") request := by
  have refreshes (sends : client.Sends scope (refreshCall s cloudId identity version r) request) :
      ∃ cloudId, client.Addresses s.account .put (.cloudCluster cloudId "") request := by
    obtain ⟨plan, planned, addressed, -⟩ := sends.addresses
    cases planned
    exact ⟨cloudOf r cloudId, acting ▸ unnamed ▸ addressed⟩
  have promotes : ¬ client.Sends scope (promotionCall s cloudId identity version r) request :=
    fun sends => sends.promote.1 unnamed
  cases path with
  | unrefreshed =>
      obtain ⟨rfl, rfl, -⟩ := Step.call.inj (List.mem_singleton.mp inside)
      exact refreshes sends
  | refreshed =>
      rcases List.mem_cons.mp inside with same | inside
      · obtain ⟨rfl, rfl, -⟩ := Step.call.inj same
        exact refreshes sends
      · obtain ⟨rfl, rfl, -⟩ := Step.call.inj (List.mem_singleton.mp inside)
        exact absurd sends promotes

/-- A registration is refused before anything is sent, or late. -/
theorem RegistrationPath.refused [Url.Idna]
    (path : RegistrationPath cluster s steps (.error (.refused why)))
    (vetted : ∀ step ∈ steps, step.Vetted) (logged : Logged client steps log) :
    log = [] ∨ Belated client cluster s log why := by
  generalize outcome : Except.error (Failure.refused why) = out at path
  have whole := path
  cases path with
  | unacting =>
      cases logged
      exact .inl rfl
  | homeless acting _ cloud =>
      cases outcome
      rcases cloud.refused vetted logged with rfl | ⟨rfl, free, created, inside, unnamed⟩
      · exact .inl rfl
      · obtain ⟨reply, answered, status, body⟩ := logged.cloud_created inside
        rw [account_of_knownScope acting] at answered
        exact .inr (.unnamedCloud free answered status body unnamed
          (whole.untouched cloud.spares logged))
  | unresolved acting self cloud record =>
      cases outcome
      obtain ⟨first, second⟩ := List.forall_mem_append.mp vetted
      obtain ⟨rfl, rfl, rfl⟩ := record.refused (cloud.sendable first) second
      rw [List.append_nil] at logged whole
      exact .inr (.anonymous self (whole.untouched cloud.spares logged))
  | promoted acting self cloud record _ _ promotion =>
      cases outcome
      obtain ⟨first, later⟩ := List.forall_mem_append.mp vetted
      obtain ⟨second, third⟩ := List.forall_mem_append.mp later
      have account := account_of_knownScope acting
      obtain ⟨rfl, r, rfl, unnamed⟩ := promotion.refused (cloud.sendable first)
        (fun r created => (created ▸ record).named_created second) third
      obtain ⟨fit, part, within, read⟩ := record.readBy_adopted
      have shown := read.shown (List.subset_append_of_subset_right _
        (List.subset_append_of_subset_left _ within)) account logged
      refine .inr (.unnamedCluster ⟨_, r, self, fit, unnamed, shown⟩ ?_)
      intro request member
      obtain ⟨other, call, answer, inside, sends⟩ := logged.sends member
      by_cases writes : call.WritesCluster
      · rcases List.mem_append.mp inside with here | inside
        · exact absurd writes (cloud.spares _ here)
        rcases List.mem_append.mp inside with here | here
        · exact absurd writes (record.spares_adopted _ here)
        · exact .inr (.inr (promotion.sends_unnamed account unnamed here sends))
      · rcases whole.posts_free inside writes sends with get | posted
        · exact .inl get
        · exact .inr (.inl posted)
  | unidentified | registered | unversioned => cases outcome

/-! ## The other operations -/

/-- A poll that has come to an end with a listing has sent its token. -/
theorem PollPath.sendable {interval : Duration} {cloud : Option CloudRecord}
    (path : PollPath (findPrivateCloud scope) interval steps (.ok cloud))
    (vetted : ∀ step ∈ steps, step.Vetted) : Client.Sendable scope := by
  generalize outcome : Except.ok cloud = out at path
  induction path with
  | exhausted | abandoned => cases outcome
  | succeeded round =>
      cases outcome
      obtain ⟨answer, rfl, found⟩ := findPrivateCloud_takes round
      cases answer with
      | error e => cases found
      | ok clouds => exact (vetted _ List.mem_cons_self).1
  | again _ _ ih =>
      refine ih (fun step member => vetted step ?_) outcome
      exact List.mem_append_right _ (List.mem_cons_of_mem _ (List.mem_cons_of_mem _ member))

/-- An unregistration is refused before anything is sent. -/
theorem UnregistrationPath.refused {interval : Duration}
    (path : UnregistrationPath cluster s interval clusterId steps (.error (.refused why)))
    (vetted : ∀ step ∈ steps, step.Vetted) : steps = [] := by
  generalize outcome : Except.error (Failure.refused why) = out at path
  cases path with
  | unacting => rfl
  | unlisted | homeless => cases outcome
  | kept _ poll =>
      cases outcome
      obtain ⟨polled, last⟩ := List.forall_mem_append.mp (List.forall_mem_cons.mp vetted).2
      have refused := last _ List.mem_cons_self
      exact absurd (poll.sendable polled) (Step.Vetted.unsendable refused rfl)
  | unmanaged _ poll =>
      subst outcome
      obtain ⟨polled, last⟩ := List.forall_mem_append.mp (List.forall_mem_cons.mp vetted).2
      have refused := last _ (List.mem_cons_of_mem _ List.mem_cons_self)
      exact absurd (poll.sendable polled) (Step.Vetted.unsendable refused rfl)

/-- The question whether a cluster is managed is refused before anything is sent. -/
theorem nil_of_isManaged_refused [Url.Idna]
    (takes : (isManaged cluster s clusterId).run.Takes steps (.error (.refused why)))
    (logged : Logged client steps log) : log = [] := by
  unfold isManaged at takes
  rw [scopeOf_eq] at takes
  rcases Procedure.takes_ofExcept_bind takes with ⟨e, -, rfl, -⟩ | ⟨scope, -, takes⟩
  · cases logged
    rfl
  rcases Procedure.takes_call_bind takes with ⟨e, rfl, outcome⟩ | ⟨r, rest, rfl, tail⟩
  · cases outcome
    exact (logged_singleton_iff.mp logged).nil_of_refused
  · cases (Procedure.takes_pure tail).2

end

/-- A refusal means that nothing has been sent, with three exceptions. An unregistration and the
question whether a cluster is managed send nothing when they are refused. A registration does so
too, or it has found out late that the cluster has no identity, or that the cloud that it has
created or the pending record that it has been shown has no id. By then it has read, and has
posted a cloud at most, and only where none is configured; and for the pending record it has
also put an update. In no case has it posted or deleted a record of a cluster. -/
theorem refused_operations_send_nothing_unless_late [Url.Idna] {σ : Type} (net : Network σ)
    (client : Client) (cluster : LocalCluster) (s : Settings) (wire : Wire σ) (why : Refusal) :
    (((register cluster s).run.run (overHttp net client) wire).1 = .error (.refused why) →
      ∃ log, ((register cluster s).run.run (overHttp net client) wire).2.events =
        wire.events ++ log ∧ (log = [] ∨ Belated client cluster s log why)) ∧
    (∀ poll clusterId, ((unregister cluster s poll clusterId).run.run
        (overHttp net client) wire).1 = .error (.refused why) →
      ((unregister cluster s poll clusterId).run.run (overHttp net client) wire).2.events =
        wire.events) ∧
    ∀ clusterId, ((isManaged cluster s clusterId).run.run (overHttp net client) wire).1 =
        .error (.refused why) →
      ((isManaged cluster s clusterId).run.run (overHttp net client) wire).2.events =
        wire.events := by
  refine ⟨fun refused => ?_, fun poll clusterId refused => ?_, fun clusterId refused => ?_⟩
  · obtain ⟨steps, log, takes, events, logged, vetted⟩ :=
      exists_takes_vetted net client (register cluster s).run wire
    rw [refused] at takes
    exact ⟨log, events, (register_takes takes).refused vetted logged⟩
  · obtain ⟨steps, log, takes, events, logged, vetted⟩ :=
      exists_takes_vetted net client (unregister cluster s poll clusterId).run wire
    rw [refused] at takes
    obtain rfl := (unregister_takes takes).refused vetted
    cases logged
    exact events.trans (List.append_nil _)
  · obtain ⟨steps, log, takes, events, logged, -⟩ :=
      exists_takes_vetted net client (isManaged cluster s clusterId).run wire
    rw [refused] at takes
    rw [events, nil_of_isManaged_refused takes logged, List.append_nil]

/-- A registration is refused behind a request that writes: for a cluster without an identity,
behind the post of the cloud; for a cloud that comes back without an id, likewise; and for a
pending record without an id, behind its update. -/
theorem refused_behind_writes :
    letI := Url.Idna.asciiOnly
    let json (s : String) : Bytes := Utf8.encode s.toList
    let nothing : Cue := .answer .ok (json r#"{"items":[]}"#) .zero
    let unnamed : Cue := .answer .ok (json (r#"{"items":[{"state":"pending","# ++
      r#""apiServiceID":"identity","connectorInstall":"pending"}]}"#)) .zero
    let outcome (identity : String) (s : Settings) (script : List Cue) :
        Except Failure String × List Method :=
      let cluster : LocalCluster := ⟨fun _ => .ok "token", .ok {}, .ok identity⟩
      let after := (register cluster s).run.run
        (overHttp ⟨Server.scripted, .recording⟩ (Client.ofHost "http://h")) { server := script }
      (after.1, (requests after.2.events).map (·.method))
    outcome "" { account := "a" } [nothing, .answer .created (json r#"{"id":"c"}"#) .zero] =
      (.error (.refused .identityMissing), [.get, .post]) ∧
    outcome "identity" { account := "a" } [nothing, .answer .created (json "{}") .zero] =
      (.error (.refused .createdCloudWithoutId), [.get, .post]) ∧
    outcome "identity" { account := "a", cloudId := some "c" }
        [.answer .ok (json r#"{"id":"c"}"#) .zero, unnamed, .answer .ok [] .zero] =
      (.error (.refused .promotionWithoutId), [.get, .get, .put]) := by
  decide +kernel

end Enrollment.Registration
