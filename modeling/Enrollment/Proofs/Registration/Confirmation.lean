import Enrollment.Proofs.Inventory.Traffic
import Enrollment.Proofs.Registration.Path

/-!
# What a registration that succeeds has been told

An id is yielded in two cases only. Either a record with this id has been read that is
registered for the cluster already, and then the records of clusters have been left alone; or
the promotion of the record has been answered, and it was the last call. Over HTTP both are
facts about replies, so that a success is never reported without one that confirms it.
-/

namespace Enrollment.Registration

open Inventory Http

section

variable {cluster : LocalCluster} {s : Settings} {scope : Scope} {steps : List Step}
variable {cloudId identity id name : String} {configured : Option String}

/-- The steps by which a record has been read, from a listing or by the configured id. -/
inductive ReadBy (scope : Scope) (configured : Option String) (r : ClusterRecord) :
    List Step → Prop
  | listing {clusters : List ClusterRecord} (member : r ∈ clusters) :
      ReadBy scope configured r [.call scope .listClusters (.ok clusters)]
  | id {cloudId id : String} (given : configuredId? configured = some id) :
      ReadBy scope configured r [.call scope (.getCluster cloudId id) (.ok r)]

/-- A record that is resolved as a registered one has been read, and is registered. -/
theorem ClusterPath.readBy {r : ClusterRecord}
    (path : ClusterPath scope cloudId configured identity name steps (.ok (.registered r))) :
    r.standing identity = .registered ∧ ReadBy scope configured r steps := by
  cases path with
  | configured _ given path =>
      cases path with
      | registered standing => exact ⟨standing, .id given⟩
  | byIdentity _ _ path =>
      cases path with
      | registered present standing =>
          exact ⟨standing, .listing (List.mem_of_find?_eq_some present)⟩

theorem ReadBy.spares {r : ClusterRecord} (h : ReadBy scope configured r steps) :
    ∀ step ∈ steps, ¬ step.WritesCluster := by
  cases h <;> simp [Step.WritesCluster, Call.WritesCluster]

/-- A promotion that yields an id ends in the call that promotes the record with this id. -/
theorem PromotionPath.promoted {version : ClusterVersion} {resolution : Resolution}
    (path : PromotionPath scope s cloudId identity version resolution steps (.ok id)) :
    ∃ front sent, steps = front ++ [.call scope (.promote sent) (.ok ())] ∧
      sent.idText = id ∧ sent.identity = identity := by
  cases path with
  | @refreshed r answer _ result =>
      cases answer with
      | error e => cases result
      | ok a =>
          cases result
          exact ⟨[_], _, rfl, rfl, rfl⟩
  | @fresh r answer _ result =>
      cases answer with
      | error e => cases result
      | ok a =>
          cases result
          exact ⟨[], _, rfl, rfl, rfl⟩

end

/-! ## Over HTTP -/

/-- What has come back over HTTP when an id is yielded. -/
inductive Confirmed [Url.Idna] (client : Client) (cluster : LocalCluster) (s : Settings)
    (id : String) (log : List Event) : Prop
  | listed {identity : String} {clusters : List ClusterRecord} {r : ClusterRecord}
      (self : cluster.identity = .ok identity)
      (listed : Listed client s.account .clusters Listing.clusters clusters log)
      (member : r ∈ clusters) (named : r.idText = id) (theirs : r.identity = identity)
      (installed : r.install = .known .installed) (managed : r.managedState = .known .managed)
      (untouched : ∀ request ∈ requests log, ¬ client.WritesCluster request)
  | read {identity cloudId clusterId : String} {reply : Reply} {r : ClusterRecord}
      (self : cluster.identity = .ok identity) (given : configuredId? s.clusterId = some clusterId)
      (answered : Answered client s.account .get (.cloudCluster cloudId clusterId) reply log)
      (status : reply.status = .ok) (decoded : ClusterRecord.decode reply.body = .ok r)
      (named : r.idText = id) (theirs : r.identity = identity)
      (installed : r.install = .known .installed) (managed : r.managedState = .known .managed)
      (untouched : ∀ request ∈ requests log, ¬ client.WritesCluster request)
  | promoted {identity : String} {front : List Event} {request : Request} {reply : Reply}
      {sent : ClusterRecord} (self : cluster.identity = .ok identity)
      (last : log = front ++ [.exchange request (.reply reply)])
      (posted : client.Addresses s.account .post .managedClusters request)
      (body : request.body = some (Utf8.encode sent.encode.toList)) (named : sent.idText = id)
      (theirs : sent.identity = identity) (status : reply.status = .created)

section

variable {client : Client} {cluster : LocalCluster} {s : Settings} {scope : Scope}
variable {identity id : String} {first second : List Step} {log : List Event}
variable [Url.Idna]

/-- A promotion that has been carried out leaves, as the last thing, the post of its record and
the reply that the record is managed now. -/
theorem Leaves.promoted {sent : ClusterRecord}
    (h : Leaves client (.call scope (.promote sent) (.ok ())) log) :
    ∃ front request reply, log = front ++ [.exchange request (.reply reply)] ∧
      client.Addresses scope.account .post .managedClusters request ∧
      request.body = some (Utf8.encode sent.promotion.encode.toList) ∧
      reply.status = .created := by
  obtain ⟨plan, request, reply, front, planned, ordered, rfl, accepted, -⟩ := h.concluded
  have addressed := Client.addresses_of_request? ordered
  have sends : client.Sends scope (.promote sent) request := ⟨plan, planned, ordered⟩
  simp only [Call.plan] at planned
  split at planned
  · cases planned
  · cases planned
    exact ⟨front, request, reply, rfl, addressed, sends.promote.2, status_of_exactly accepted⟩

/-- A record that has been read, and is registered, confirms its id. -/
theorem ReadBy.confirmed {r : ClusterRecord} (acting : scope.account = s.account)
    (self : cluster.identity = .ok identity) (standing : r.standing identity = .registered)
    (read : ReadBy scope s.clusterId r second) (spared : ∀ step ∈ first, ¬ step.WritesCluster)
    (logged : Logged client (first ++ second) log) :
    Confirmed client cluster s r.idText log := by
  obtain ⟨-, theirs, installed, managed⟩ := ClusterRecord.standing_eq_registered.mp standing
  have untouched : ∀ request ∈ requests log, ¬ client.WritesCluster request := by
    intro request member
    refine logged.spares (fun step inside => ?_) member
    rcases List.mem_append.mp inside with inside | inside
    · exact spared step inside
    · exact read.spares step inside
  cases read with
  | listing member =>
      have listed := logged.clusters_listed (List.mem_append_right first List.mem_cons_self)
      rw [acting] at listed
      exact .listed self listed member rfl theirs installed managed untouched
  | id given =>
      obtain ⟨reply, answered, status, decoded⟩ :=
        logged.cluster_found (List.mem_append_right first List.mem_cons_self)
      rw [acting] at answered
      exact .read self given answered status decoded rfl theirs installed managed untouched

/-- What is yielded is confirmed on every way through a registration. -/
theorem RegistrationPath.confirmed {steps : List Step}
    (path : RegistrationPath cluster s steps (.ok id)) (logged : Logged client steps log) :
    Confirmed client cluster s id log := by
  cases path with
  | registered acting self cloud record =>
      obtain ⟨standing, read⟩ := record.readBy
      exact read.confirmed (account_of_knownScope acting) self standing cloud.spares logged
  | promoted acting self _ _ _ _ promotion =>
      obtain ⟨front, sent, rfl, named, theirs⟩ := promotion.promoted
      rw [← List.append_assoc, ← List.append_assoc] at logged
      obtain ⟨before, back, rfl, -, last⟩ := logged_append_iff.mp logged
      obtain ⟨part, request, reply, rfl, posted, body, status⟩ :=
        (logged_singleton_iff.mp last).promoted
      rw [account_of_knownScope acting] at posted
      exact .promoted self (List.append_assoc before part _).symm posted body named theirs status

end

/-- Success is never reported without confirmation. When a registration yields an id, a reply
with the status 200 has shown a record with this id that carries the identity of the cluster,
installed and managed, and nothing has been sent that writes to the records of clusters; or the
last that has been sent is the promotion of a record with this id and the identity, and it has
been answered with the status 201. -/
theorem register_confirms_success [Url.Idna] {σ : Type} (net : Network σ) (client : Client)
    (cluster : LocalCluster) (s : Settings) (wire : Wire σ) (id : String)
    (registered : ((register cluster s).run.run (overHttp net client) wire).1 = .ok id) :
    ∃ log, ((register cluster s).run.run (overHttp net client) wire).2.events =
        wire.events ++ log ∧ Confirmed client cluster s id log := by
  obtain ⟨steps, log, takes, events, logged⟩ :=
    exists_takes_logged net client (register cluster s).run wire
  rw [registered] at takes
  exact ⟨log, events, (register_takes takes).confirmed logged⟩

/-- A cluster is created and promoted by an inventory that answers as its script says. -/
theorem created_cluster_is_confirmed :
    letI := Url.Idna.asciiOnly
    let json (s : String) : Bytes := Utf8.encode s.toList
    let script : List Cue := [
      .answer .ok (json r#"{"items":[{"id":"c","name":"private","cloudType":"private"}]}"#) .zero,
      .answer .ok (json r#"{"items":[]}"#) .zero,
      .answer .created (json r#"{"id":"k"}"#) .zero,
      .answer .created [] .zero]
    let client := Client.ofHost "http://h"
    let cluster : LocalCluster := ⟨fun _ => .ok "token", .ok {}, .ok "identity"⟩
    let after := (register cluster { account := "a" }).run.run
      (overHttp ⟨Server.scripted, .recording⟩ client) { server := script }
    after.1 = .ok "k" ∧ ∃ log, after.2.events = [] ++ log ∧
      Confirmed client cluster { account := "a" } "k" log := by
  suffices registered : _ from
    ⟨registered, @register_confirms_success .asciiOnly _ _ _ _ _ { server := _ } "k" registered⟩
  decide +kernel

end Enrollment.Registration
