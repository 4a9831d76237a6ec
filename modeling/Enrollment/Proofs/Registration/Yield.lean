import Enrollment.Proofs.Registration.Confirmation

/-!
# Which id a registration yields

The id that a registration yields is read off a record that the inventory has shown. Creating
a record and promoting it make sure that there is an id. A record that is registered already is
taken at its word: where the inventory shows one without an id, the empty id is yielded, and
where it answers for a configured id with another record, the id of that one is. Nothing but
such a reply leads to an id that cannot be used.
-/

namespace Enrollment.Registration

open Inventory Http

/-- A record has been asked for by its id, and the reply had the status 200 and decoded to
`r`. -/
def Read [Url.Idna] (client : Client) (account clusterId : String) (r : ClusterRecord)
    (log : List Event) : Prop :=
  ∃ cloudId reply, Answered client account .get (.cloudCluster cloudId clusterId) reply log ∧
    reply.status = .ok ∧ ClusterRecord.decode reply.body = .ok r

/-- The inventory has shown the record, in a listing or in answer to the configured id. -/
inductive Shown [Url.Idna] (client : Client) (s : Settings) (r : ClusterRecord) (log : List Event) :
    Prop
  | listed {clusters : List ClusterRecord}
      (listed : Listed client s.account .clusters Listing.clusters clusters log)
      (member : r ∈ clusters)
  | read {clusterId : String} (given : configuredId? s.clusterId = some clusterId)
      (read : Read client s.account clusterId r log)

/-- A record without an id has been shown that has this standing towards the cluster. -/
def UnnamedShown [Url.Idna] (client : Client) (cluster : LocalCluster) (s : Settings)
    (standing : Standing) (log : List Event) : Prop :=
  ∃ identity r, cluster.identity = .ok identity ∧ r.standing identity = standing ∧
    r.idText = "" ∧ Shown client s r log

section

variable {client : Client} {cluster : LocalCluster} {s : Settings} {scope : Scope}
variable {identity id cloudId clusterId name : String} {steps part : List Step}
variable {log : List Event} {resolution : Resolution} {r : ClusterRecord}

theorem Shown.mono [Url.Idna] {rest : List Event} (h : Shown client s r log) (within : log ⊆ rest) :
    Shown client s r rest := by
  cases h with
  | listed listed member => exact .listed (listed.mono within) member
  | read given read =>
      obtain ⟨cloudId, reply, answered, found⟩ := read
      exact .read given ⟨cloudId, reply, answered.mono within, found⟩

theorem Logged.read [Url.Idna] (logged : Logged client steps log)
    (acting : scope.account = s.account)
    (member : .call scope (.getCluster cloudId clusterId) (.ok r) ∈ steps) :
    Read client s.account clusterId r log := by
  obtain ⟨reply, answered, found⟩ := logged.cluster_found member
  exact ⟨cloudId, reply, acting ▸ answered, found⟩

/-- What has been read on the way has been shown. -/
theorem ReadBy.shown [Url.Idna] (read : ReadBy scope s.clusterId r part) (within : part ⊆ steps)
    (acting : scope.account = s.account) (logged : Logged client steps log) :
    Shown client s r log := by
  cases read with
  | listing member =>
      have listed := logged.clusters_listed (within List.mem_cons_self)
      exact .listed (acting ▸ listed) member
  | id given => exact .read given (logged.read acting (within List.mem_cons_self))

/-- Where an id is configured, the record is what has been found under it. -/
theorem ClusterPath.found_as_configured
    (path : ClusterPath scope cloudId s.clusterId identity name steps (.ok resolution))
    (given : configuredId? s.clusterId = some clusterId) :
    .call scope (.getCluster cloudId clusterId) (.ok resolution.record) ∈ steps := by
  cases path with
  | configured _ given' path =>
      cases given.symm.trans given'
      cases path with
      | registered | adopted => exact List.mem_cons_self
  | byIdentity _ free => cases given.symm.trans free

theorem PromotionPath.yields {version : ClusterVersion}
    (path : PromotionPath scope s cloudId identity version resolution steps (.ok id)) :
    id = resolution.record.idText := by
  cases path with
  | @refreshed r answer _ result | @fresh r answer _ result =>
      cases answer with
      | error e => cases result
      | ok a =>
          cases result
          rfl

variable [Url.Idna]

/-- A record without an id is not promoted. -/
theorem PromotionPath.named {version : ClusterVersion}
    (path : PromotionPath scope s cloudId identity version resolution steps (.ok id))
    (logged : Logged client steps log) : id ≠ "" := by
  obtain ⟨front, sent, rfl, named, -⟩ := path.promoted
  obtain ⟨before, last, -, -, leaves⟩ := logged_append_iff.mp logged
  obtain ⟨plan, request, -, -, planned, ordered, -⟩ := (logged_singleton_iff.mp leaves).concluded
  have sends : client.Sends scope (.promote sent) request := ⟨plan, planned, ordered⟩
  exact named ▸ sends.promote.1

/-- The empty id is yielded only for a registered record that has been shown without an id. -/
theorem RegistrationPath.named_or_shown (path : RegistrationPath cluster s steps (.ok id))
    (logged : Logged client steps log) :
    id ≠ "" ∨ UnnamedShown client cluster s .registered log := by
  cases path with
  | @registered scope identity cloudId first second r acting self _ record =>
      by_cases named : r.idText = ""
      · obtain ⟨standing, read⟩ := record.readBy
        have shown := read.shown (List.subset_append_right first second)
          (account_of_knownScope acting) logged
        exact .inr ⟨identity, r, self, standing, named, shown⟩
      · exact .inl named
  | promoted _ _ _ _ _ _ promotion =>
      obtain ⟨_, back, -, -, behind⟩ := logged_append_iff.mp logged
      obtain ⟨_, last, -, -, logged⟩ := logged_append_iff.mp behind
      exact .inl (promotion.named logged)

/-- With a configured id, the id of what has been found under it is yielded. -/
theorem RegistrationPath.yields (path : RegistrationPath cluster s steps (.ok id))
    (given : configuredId? s.clusterId = some clusterId) (logged : Logged client steps log) :
    ∃ r, Read client s.account clusterId r log ∧ id = r.idText := by
  cases path with
  | @registered scope identity cloudId first second r acting _ _ record =>
      have found := List.mem_append_right first (record.found_as_configured given)
      exact ⟨r, logged.read (account_of_knownScope acting) found, rfl⟩
  | @promoted scope identity cloudId first second third resolution version _ acting _ _ record
      _ _ promotion =>
      have found := List.mem_append_right first
        (List.mem_append_left third (record.found_as_configured given))
      exact ⟨resolution.record, logged.read (account_of_knownScope acting) found,
        promotion.yields⟩

end

/-- A registration yields the id of a record that the inventory has shown. The id is not empty,
unless a record without an id has been shown that is registered for the cluster; and where an id
is configured, it is the id of the record that has been answered for it. -/
theorem register_yields_shown_id [Url.Idna] {σ : Type} (net : Network σ) (client : Client)
    (cluster : LocalCluster) (s : Settings) (wire : Wire σ) (id : String)
    (registered : ((register cluster s).run.run (overHttp net client) wire).1 = .ok id) :
    ∃ log, ((register cluster s).run.run (overHttp net client) wire).2.events =
        wire.events ++ log ∧ (id ≠ "" ∨ UnnamedShown client cluster s .registered log) ∧
      ∀ clusterId, configuredId? s.clusterId = some clusterId →
        ∃ r, Read client s.account clusterId r log ∧ id = r.idText := by
  obtain ⟨steps, log, takes, events, logged⟩ :=
    exists_takes_logged net client (register cluster s).run wire
  rw [registered] at takes
  have path := register_takes takes
  exact ⟨log, events, path.named_or_shown logged, fun _ given => path.yields given logged⟩

/-- The configured cluster is found registered, and its id is yielded. -/
theorem configured_id_is_yielded :
    letI := Url.Idna.asciiOnly
    let json (s : String) : Bytes := Utf8.encode s.toList
    let script : List Cue := [
      .answer .ok (json r#"{"id":"c"}"#) .zero,
      .answer .ok (json (r#"{"id":"k","managedState":"managed","apiServiceID":"identity","# ++
        r#""connectorInstall":"installed"}"#)) .zero]
    let client := Client.ofHost "http://h"
    let cluster : LocalCluster := ⟨fun _ => .ok "token", .ok {}, .ok "identity"⟩
    let settings : Settings := { account := "a", cloudId := some "c", clusterId := some "k" }
    let after := (register cluster settings).run.run
      (overHttp ⟨Server.scripted, .recording⟩ client) { server := script }
    after.1 = .ok "k" ∧ ∃ log, after.2.events = [] ++ log ∧
      ("k" ≠ "" ∨ UnnamedShown client cluster settings .registered log) ∧
      ∀ clusterId, configuredId? settings.clusterId = some clusterId →
        ∃ r, Read client settings.account clusterId r log ∧ "k" = r.idText := by
  suffices registered : _ from
    ⟨registered, @register_yields_shown_id .asciiOnly _ _ _ _ _ { server := _ } "k" registered⟩
  decide +kernel

/-- A record that is found registered is yielded without an id, and in place of the one that is
configured. -/
theorem unusable_ids_are_yielded :
    letI := Url.Idna.asciiOnly
    let json (s : String) : Bytes := Utf8.encode s.toList
    let nameless := r#"{"items":[{"managedState":"managed","apiServiceID":"identity","# ++
      r#""connectorInstall":"installed"}]}"#
    let other := r#"{"id":"other","managedState":"managed","apiServiceID":"identity","# ++
      r#""connectorInstall":"installed"}"#
    let cluster : LocalCluster := ⟨fun _ => .ok "token", .ok {}, .ok "identity"⟩
    let yielded (s : Settings) (body : String) : Except Failure String :=
      ((register cluster s).run.run
        (overHttp ⟨Server.scripted, .recording⟩ (Client.ofHost "http://h"))
        { server := [.answer .ok (json r#"{"id":"c"}"#) .zero, .answer .ok (json body) .zero] }).1
    let settings : Settings := { account := "a", cloudId := some "c" }
    yielded settings nameless = .ok "" ∧
      yielded { settings with clusterId := some "k" } other = .ok "other" := by
  decide +kernel

end Enrollment.Registration
