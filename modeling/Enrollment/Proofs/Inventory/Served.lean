import Enrollment.Proofs.Inventory.Address
import Enrollment.Proofs.Inventory.Classification
import Enrollment.Proofs.Inventory.Neat
import Enrollment.Proofs.Inventory.Tracking
import Enrollment.Proofs.Inventory.Urls

/-!
# A store behind a server

The inventory over HTTP and the inventory in memory are two ways to carry out the same calls. Here
the one is put behind the other: a server holds a store, reads the call off each request, has the
store carry it out, and replies with what comes of it. A client of this server is answered as the
store answers, and leaves the store as the store leaves itself. This takes all that the two sides
have to agree on: how URLs are built and read, what records are written as, which statuses are
accepted, what is tried again, and which fields of a record are filled in on the way.
-/

namespace Enrollment.Inventory

open Http Json

/-! ## The path of a resource -/

namespace Resource

/-- The segments of the path below the host. -/
def segments (account : String) (r : Resource) : List (List Char) :=
  ("accounts" :: account :: "topology" :: "v1" :: r.parts).map String.toList

theorem slashed_parts (r : Resource) :
    Url.slashed (r.parts.map String.toList) = '/' :: r.path.toList := by
  rw [path_eq]
  cases r <;> simp [parts, Url.slashed]

theorem url_eq (hostUrl account : String) (r : Resource) :
    r.url hostUrl account = hostUrl ++ String.ofList (Url.slashed (r.segments account)) := by
  have below : Url.slashed (r.segments account) =
      "/accounts/".toList ++ (account.toList ++ ("/topology/v1".toList ++
        Url.slashed (r.parts.map String.toList))) := by
    simp [segments, Url.slashed]
  apply String.toList_injective
  rw [below, slashed_parts]
  simp [url, toString, String.toList_append]

/-- The resource that the path of a URL names, below the directory `dir`. -/
def named? (dir : List (List Char)) (url : Url) : Option Resource :=
  match url.path with
  | .whole _ => none
  | .segments list =>
    if dir <+: list then
      match (list.drop dir.length).map String.ofList with
      | "accounts" :: _ :: "topology" :: "v1" :: parts => ofParts? parts
      | _ => none
    else none

theorem named?_of_path {dir : List (List Char)} {url : Url} {account : String} {r : Resource}
    (path : url.path = .segments (dir ++ r.segments account)) : named? dir url = some r := by
  have below : (r.segments account).map String.ofList =
      "accounts" :: account :: "topology" :: "v1" :: r.parts := by
    simp [segments, List.map_map, Function.comp_def]
  rw [named?, path]
  simp only [if_pos (List.prefix_append dir _), List.drop_left, below]
  exact ofParts?_parts r

end Resource

/-! ## The server -/

namespace Call

/-- The call that is asked for by using a method on a resource. -/
def requested? (method : Method) (resource : Resource) (body : List UInt8) : Option Call :=
  match method, resource with
  | .get, .clouds => some .listClouds
  | .get, .cloud id => some (.getCloud id)
  | .get, .clusters => some .listClusters
  | .get, .cloudCluster cloudId id => some (.getCluster cloudId id)
  | .get, .managedCluster id => some (.getManagedCluster id)
  | .post, .clouds => (CloudRecord.decode body).toOption.map .createCloud
  | .post, .cloudClusters cloudId =>
    (ClusterRecord.decode body).toOption.map (.createCluster cloudId)
  | .post, .managedClusters => (ClusterRecord.decode body).toOption.map .promote
  | .put, .cloudCluster cloudId id =>
    (ClusterRecord.decode body).toOption.map fun r =>
      .updateCluster cloudId { r with id := some id }
  | .delete, .managedCluster id => some (.unmanage id)
  | .delete, .cloudCluster cloudId id => some (.deleteCluster cloudId id)
  | _, _ => none

/-- The reply to a call that is carried out. -/
def accepted : (call : Call) → call.Answer → Reply
  | .getCloud _, cloud => ⟨.ok, Utf8.encode cloud.encode.toList⟩
  | .listClouds, clouds => ⟨.ok, Utf8.encode (Listing.clouds.encode ⟨clouds⟩).toList⟩
  | .createCloud _, cloud => ⟨.created, Utf8.encode cloud.encode.toList⟩
  | .listClusters, clusters => ⟨.ok, Utf8.encode (Listing.clusters.encode ⟨clusters⟩).toList⟩
  | .getCluster _ _, cluster | .getManagedCluster _, cluster =>
    ⟨.ok, Utf8.encode cluster.encode.toList⟩
  | .createCluster _ _, cluster => ⟨.created, Utf8.encode cluster.encode.toList⟩
  | .updateCluster _ _, _ => ⟨.ok, []⟩
  | .promote _, _ => ⟨.created, []⟩
  | .unmanage _, _ | .deleteCluster _ _, _ => ⟨.noContent, []⟩

/-- The reply to a call that fails. -/
def rejected : Failure → Reply
  | .unexpectedStatus status _ => ⟨status, []⟩
  | _ => ⟨.notFound, []⟩

/-- The reply that tells what has come of a call. -/
def reply (call : Call) : Except Failure call.Answer → Reply
  | .ok a => call.accepted a
  | .error e => rejected e

end Call

namespace Store

/-- What comes of a call, as it is told, and the store behind it. -/
def replied (call : Call) (s : Store) : Reply × Store :=
  (call.reply (perform call s).1, (perform call s).2)

/-- The server that has a store carry out what it is asked for, below the directory `dir` of its
paths. A store that is unavailable has it refuse every request. -/
def served (dir : List (List Char)) : Server Store := fun request s =>
  if s.unavailable then ({ arrival := .reply ⟨.serviceUnavailable, []⟩ }, s)
  else
    match (Resource.named? dir request.url).bind fun resource =>
      Call.requested? request.method resource (request.body.getD []) with
    | none => ({ arrival := .reply ⟨.notFound, []⟩ }, s)
    | some call => ({ arrival := .reply (replied call s).1 }, (replied call s).2)

end Store

/-! ## What has been sent is read -/

section

variable {ρ : Type} {r : ρ}

theorem decode_encode {l : Layout ρ} (reads : Reads l.reader (l.write r) r) :
    l.decode (Utf8.encode (l.encode r).toList) = .ok r := by
  rw [Layout.encode, String.toList_ofList]
  exact reads.decode

theorem decode_cloud {cloud : CloudRecord} (proper : cloud.IsProper) :
    CloudRecord.decode (Utf8.encode cloud.encode.toList) = .ok cloud :=
  decode_encode (cloud.reads_write proper)

theorem decode_cluster {cluster : ClusterRecord} (proper : cluster.IsProper) :
    ClusterRecord.decode (Utf8.encode cluster.encode.toList) = .ok cluster :=
  decode_encode (cluster.reads_write proper)

theorem decode_clouds {clouds : List CloudRecord} (proper : ∀ r ∈ clouds, r.IsProper) :
    Listing.clouds.decode (Utf8.encode (Listing.clouds.encode ⟨clouds⟩).toList) = .ok ⟨clouds⟩ :=
  decode_encode (Listing.reads_write CloudRecord.reads_write ⟨clouds⟩ proper)

theorem decode_clusters {clusters : List ClusterRecord} (proper : ∀ r ∈ clusters, r.IsProper) :
    Listing.clusters.decode (Utf8.encode (Listing.clusters.encode ⟨clusters⟩).toList) =
      .ok ⟨clusters⟩ :=
  decode_encode (Listing.reads_write ClusterRecord.reads_write ⟨clusters⟩ proper)

end

/-! ## What the server makes of the requests of a client -/

section

variable {call received : Call} {plan : Plan}

/-- What a store that can be reached replies is read off what it answers. -/
theorem replied_eq (call : Call) {s : Store} (reachable : ¬ s.unavailable = true) :
    Store.replied call s =
      let counted := if Store.isRead call then { s with reads := s.reads + 1 } else s
      match (counted.answer call).map fun p => (call.accepted p.1, p.2) with
      | .ok told => told
      | .error e => (Call.rejected e, counted) := by
  simp only [Store.replied, Store.perform, if_neg reachable]
  cases Store.answer _ call <;> rfl

/-- Calls that come to the same, in the same words, are replied to in the same way. -/
theorem replied_congr (reads : Store.isRead received = Store.isRead call)
    (same : ∀ s : Store, (s.answer received).map (fun p => (received.accepted p.1, p.2)) =
      (s.answer call).map fun p => (call.accepted p.1, p.2)) (s : Store) :
    Store.replied received s = Store.replied call s := by
  by_cases unavailable : s.unavailable = true
  · simp only [Store.replied, Store.perform_of_unavailable _ s unavailable]
    rfl
  · simp only [replied_eq _ unavailable, reads, same]

/-! The records that a client sends are marked on the way, and an update is sent without the id. The
store marks what it creates itself, and does not look at the marks of an update or a promotion. -/

theorem replied_stamped (cloudId : String) (r : ClusterRecord) (s : Store) :
    Store.replied (.createCluster cloudId r.stamped) s =
      Store.replied (.createCluster cloudId r) s := by
  apply replied_congr
  · rfl
  · intro s
    rfl

theorem replied_update (cloudId : String) {id : String} {r : ClusterRecord} (named : r.id = some id)
    (s : Store) :
    Store.replied (.updateCluster cloudId { r.stamped with id := some id }) s =
      Store.replied (.updateCluster cloudId r) s := by
  apply replied_congr
  · rfl
  · intro s
    simp only [Store.answer, named]
    rfl

theorem replied_promotion (r : ClusterRecord) (s : Store) :
    Store.replied (.promote r.promotion) s = Store.replied (.promote r) s := by
  apply replied_congr
  · rfl
  · intro s
    rfl

/-- A request for a neat call is understood: the store carries the call out, and the reply tells
what has come of it. -/
theorem served_eq {s : Store} {dir : List (List Char)} {account : String} {request : Request}
    (planned : call.plan = .ok plan) (sent : call.IsNeat) (method : request.method = plan.method)
    (body : request.body = plan.body)
    (path : request.url.path = .segments (dir ++ plan.resource.segments account)) :
    Store.served dir request s =
      ({ arrival := .reply (Store.replied call s).1 }, (Store.replied call s).2) := by
  have understood {received : Call}
      (asked : Call.requested? plan.method plan.resource (plan.body.getD []) = some received)
      (same : Store.replied received s = Store.replied call s) :
      Store.served dir request s =
        ({ arrival := .reply (Store.replied call s).1 }, (Store.replied call s).2) := by
    by_cases unavailable : s.unavailable = true
    · rw [Store.served, if_pos unavailable, Store.replied,
        Store.perform_of_unavailable call s unavailable]
      rfl
    · rw [Store.served, if_neg unavailable, method, body]
      simp only [Resource.named?_of_path path, Option.bind_some, asked, same]
  cases call with
  | createCloud cloud =>
      obtain ⟨proper, unnamed⟩ := sent
      simp only [Call.plan, unnamed] at planned
      cases planned
      refine understood ?_ rfl
      simp only [Plan.create, Option.getD_some, Call.requested?]
      rw [decode_cloud proper]
      simp only [Except.toOption, Option.map_some]
  | createCluster cloudId cluster =>
      obtain ⟨-, proper, unnamed⟩ := sent
      simp only [Call.plan, unnamed] at planned
      cases planned
      refine understood ?_ (replied_stamped cloudId cluster s)
      simp only [Plan.create, Option.getD_some, Call.requested?]
      rw [decode_cluster proper.stamped]
      simp only [Except.toOption, Option.map_some]
  | updateCluster cloudId cluster =>
      obtain ⟨-, proper, id, named, -⟩ := sent
      simp only [Call.plan, named] at planned
      cases planned
      refine understood ?_ (replied_update cloudId named s)
      simp only [Plan.replace, Option.getD_some, Call.requested?]
      rw [decode_cluster proper.stamped.withoutId]
      simp only [Except.toOption, Option.map_some]
  | promote cluster =>
      obtain ⟨proper, id, named, plain⟩ := sent
      have given : ¬ cluster.idText.isEmpty = true := by
        rw [ClusterRecord.idText_of_id named, String.isEmpty_iff]
        exact plain.ne_empty
      simp only [Call.plan, if_neg given] at planned
      cases planned
      refine understood ?_ (replied_promotion cluster s)
      simp only [Plan.create, Option.getD_some, Call.requested?]
      rw [decode_cluster proper.promotion]
      simp only [Except.toOption, Option.map_some]
  | _ =>
      cases planned
      exact understood rfl rfl

end

end Enrollment.Inventory
