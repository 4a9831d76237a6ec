import Enrollment.Inventory.Client
import Enrollment.Proofs.Url.LastPart

/-!
# Which resource a request is for

A request is for a resource when its URL is the one that the resource is read as, and a client
sends the requests that its calls are planned as. Ids go into a URL as they are, so that two
resources may well be read as one URL. The collections that records are posted to are an
exception: the last part of the URL tells them apart. A request that posts to one of them is
thus made by the call that creates such records, whatever ids are about.
-/

namespace Enrollment.Inventory

open Http

/-! ## Collections -/

namespace Resource

/-- The word that the path of a collection of records ends in. -/
def collection? : Resource → Option String
  | clouds => some "clouds"
  | cloudClusters _ | clusters => some "clusters"
  | managedClusters => some "managedClusters"
  | cloud _ | cloudCluster _ _ | managedCluster _ => none

variable {r : Resource} {word : String}

theorem isWord_of_collection? (h : r.collection? = some word) : Url.IsWord word.toList := by
  cases r <;> cases h <;> decide

theorem endsIn_path (h : r.collection? = some word) :
    Url.EndsIn word.toList ('/' :: r.path.toList) := by
  cases r with
  | clouds | clusters | managedClusters =>
      cases h
      exact List.suffix_refl _
  | cloudClusters cloudId =>
      cases h
      have whole : (cloudClusters cloudId).path = "clouds/" ++ cloudId ++ "/clusters" := rfl
      rw [whole, String.toList_append]
      exact ⟨'/' :: ("clouds/" ++ cloudId).toList, rfl⟩
  | cloud | cloudCluster | managedCluster => cases h

theorem behind_url (hostUrl account : String) (h : r.collection? = some word) :
    Url.Behind word.toList (r.url hostUrl account).toList := by
  have whole : r.url hostUrl account =
      hostUrl ++ "/accounts/" ++ account ++ "/topology/v1/" ++ r.path := rfl
  have accounts : "/accounts/".toList = '/' :: 'a' :: "ccounts/".toList := rfl
  have topology : "/topology/v1/".toList = "/topology/v1".toList ++ ['/'] := rfl
  refine ⟨"ccounts/".toList ++ account.toList ++ "/topology/v1".toList ++ '/' :: r.path.toList,
    ⟨hostUrl.toList, ?_⟩, (endsIn_path h).append _⟩
  simp only [whole, accounts, topology, String.toList_append, List.append_assoc,
    List.cons_append, List.nil_append]

end Resource

/-! ## Requests -/

namespace Client

/-- Only URLs over HTTP are requested. -/
theorem special_of_canRequest {url : Url} (h : Order.canRequest url = true) :
    ∃ port, Url.kindOf url.scheme = .special port := by
  simp only [Order.canRequest, Bool.and_eq_true] at h
  have scheme : url.scheme ∈ Order.schemes := by simpa using h.1.1
  simp only [Order.schemes, List.mem_cons, List.not_mem_nil, or_false] at scheme
  rcases scheme with same | same
  · exact ⟨80, by rw [same]; decide⟩
  · exact ⟨443, by rw [same]; decide⟩

variable [Url.Idna]

/-- The request uses this method on this resource of the account. -/
def Addresses (client : Client) (account : String) (method : Method) (resource : Resource)
    (request : Request) : Prop :=
  request.method = method ∧
    (Url.parse? (client.url account resource)).map Url.withoutUserinfo = some request.url

instance (client : Client) (account : String) (method : Method) (resource : Resource)
    (request : Request) : Decidable (client.Addresses account method resource request) :=
  inferInstanceAs (Decidable (_ ∧ _))

/-- The request is the one that the call is carried out by. -/
def Sends (client : Client) (scope : Scope) (call : Call) (request : Request) : Prop :=
  ∃ plan, call.plan = .ok plan ∧ (client.order scope plan).request? = .ok request

variable {client : Client} {account : String} {scope : Scope} {call : Call} {request : Request}

theorem request?_eq {order : Order} (h : order.request? = .ok request) :
    ∃ url, Url.parse? order.url = some url ∧ Order.canRequest url.withoutUserinfo = true ∧
      request = ⟨order.method, url.withoutUserinfo,
        order.headers ++ [(Header.contentType, "application/json")], order.body⟩ := by
  unfold Order.request? at h
  split at h
  · cases h
  · next url parsed =>
    dsimp only at h
    split at h
    · next sendable =>
      cases h
      exact ⟨url, parsed, sendable, rfl⟩
    · cases h

/-- There is a request for a URL that can be requested. -/
theorem request?_of_canRequest {order : Order} {url : Url} (parsed : Url.parse? order.url = some url)
    (requestable : Order.canRequest url.withoutUserinfo = true) :
    order.request? = .ok ⟨order.method, url.withoutUserinfo,
      order.headers ++ [(Header.contentType, "application/json")], order.body⟩ := by
  unfold Order.request?
  rw [parsed]
  dsimp only
  rw [if_pos requestable]

/-- What a client sends for a plan is for the resource of the plan. -/
theorem addresses_of_request? {plan : Plan} (h : (client.order scope plan).request? = .ok request) :
    client.Addresses scope.account plan.method plan.resource request := by
  obtain ⟨url, parsed, -, rfl⟩ := request?_eq h
  refine ⟨rfl, ?_⟩
  rw [show Url.parse? (client.url scope.account plan.resource) = some url from parsed]
  rfl

/-- A request over HTTP ends in the word of the collection that it is for. -/
theorem Addresses.endsIn {method : Method} {r : Resource} {word : String}
    (h : client.Addresses account method r request) (given : r.collection? = some word)
    (sendable : Order.canRequest request.url = true) :
    Url.EndsIn word.toList ('/' :: request.url.lastPart) := by
  obtain ⟨url, parsed, same⟩ := Option.map_eq_some_iff.mp h.2
  obtain ⟨port, special⟩ := special_of_canRequest sendable
  rw [← same, Url.scheme_withoutUserinfo] at special
  rw [← same, Url.lastPart_withoutUserinfo]
  exact Url.endsIn_lastPart (Resource.isWord_of_collection? given)
    (Resource.behind_url client.hostUrl account given) parsed special

/-- Collections that one request can be for are named alike. -/
theorem collection_unique {other : String} {method method' : Method} {r r' : Resource}
    {word word' : String} (left : client.Addresses account method r request)
    (right : client.Addresses other method' r' request) (given : r.collection? = some word)
    (given' : r'.collection? = some word') (sendable : Order.canRequest request.url = true) :
    word = word' := by
  have same := (left.endsIn given sendable).unique (right.endsIn given' sendable)
    (Resource.isWord_of_collection? given) (Resource.isWord_of_collection? given')
  exact String.toList_injective same

/-- What is sent for a call is for the resource that the call is planned on. -/
theorem Sends.addresses (h : client.Sends scope call request) :
    ∃ plan, call.plan = .ok plan ∧
      client.Addresses scope.account plan.method plan.resource request ∧
        Order.canRequest request.url = true := by
  obtain ⟨plan, planned, sent⟩ := h
  have addressed := addresses_of_request? sent
  obtain ⟨url, -, sendable, rfl⟩ := request?_eq sent
  exact ⟨plan, planned, addressed, sendable⟩

end Client

/-- The calls that are planned as a post, and the collections that they post to. -/
theorem Call.plan_post {call : Call} {plan : Plan} (planned : call.plan = .ok plan)
    (post : plan.method = .post) :
    (∃ cloud, call = .createCloud cloud ∧ plan.resource = .clouds) ∨
    (∃ cloudId cluster, call = .createCluster cloudId cluster ∧
      plan.resource = .cloudClusters cloudId) ∨
    ∃ cluster, call = .promote cluster ∧ plan.resource = .managedClusters := by
  cases call with
  | createCloud cloud =>
      simp only [Call.plan] at planned
      split at planned <;> cases planned
      exact .inl ⟨cloud, rfl, rfl⟩
  | createCluster cloudId cluster =>
      simp only [Call.plan] at planned
      split at planned <;> cases planned
      exact .inr (.inl ⟨cloudId, cluster, rfl, rfl⟩)
  | promote cluster =>
      simp only [Call.plan] at planned
      split at planned <;> cases planned
      exact .inr (.inr ⟨cluster, rfl, rfl⟩)
  | updateCluster cloudId cluster =>
      simp only [Call.plan] at planned
      split at planned <;> cases planned
      cases post
  | _ =>
      cases planned
      cases post

namespace Client

variable {client : Client} {account : String} {scope : Scope} {call : Call} {request : Request}
variable [Url.Idna]

/-! Each collection that records are posted to has one call that does so. -/

theorem Sends.of_post_clouds (h : client.Sends scope call request)
    (posted : client.Addresses account .post .clouds request) :
    ∃ cloud, call = .createCloud cloud := by
  obtain ⟨plan, planned, addressed, sendable⟩ := h.addresses
  have named {word : String} (given : plan.resource.collection? = some word) : word = "clouds" :=
    collection_unique addressed posted given rfl sendable
  rcases Call.plan_post planned (addressed.1.symm.trans posted.1) with
    ⟨cloud, rfl, -⟩ | ⟨_, _, rfl, resource⟩ | ⟨_, rfl, resource⟩
  · exact ⟨cloud, rfl⟩
  · exact absurd (named (by rw [resource]; rfl)) (by decide)
  · exact absurd (named (by rw [resource]; rfl)) (by decide)

theorem Sends.of_post_cloudClusters (h : client.Sends scope call request) {id : String}
    (posted : client.Addresses account .post (.cloudClusters id) request) :
    ∃ cloudId cluster, call = .createCluster cloudId cluster := by
  obtain ⟨plan, planned, addressed, sendable⟩ := h.addresses
  have named {word : String} (given : plan.resource.collection? = some word) : word = "clusters" :=
    collection_unique addressed posted given rfl sendable
  rcases Call.plan_post planned (addressed.1.symm.trans posted.1) with
    ⟨_, rfl, resource⟩ | ⟨cloudId, cluster, rfl, -⟩ | ⟨_, rfl, resource⟩
  · exact absurd (named (by rw [resource]; rfl)) (by decide)
  · exact ⟨cloudId, cluster, rfl⟩
  · exact absurd (named (by rw [resource]; rfl)) (by decide)

theorem Sends.of_post_managedClusters (h : client.Sends scope call request)
    (posted : client.Addresses account .post .managedClusters request) :
    ∃ cluster, call = .promote cluster := by
  obtain ⟨plan, planned, addressed, sendable⟩ := h.addresses
  have named {word : String} (given : plan.resource.collection? = some word) :
      word = "managedClusters" := collection_unique addressed posted given rfl sendable
  rcases Call.plan_post planned (addressed.1.symm.trans posted.1) with
    ⟨_, rfl, resource⟩ | ⟨_, _, rfl, resource⟩ | ⟨cluster, rfl, -⟩
  · exact absurd (named (by rw [resource]; rfl)) (by decide)
  · exact absurd (named (by rw [resource]; rfl)) (by decide)
  · exact ⟨cluster, rfl⟩

/-- A promotion is sent for a record with an id, and the record is its body. -/
theorem Sends.promote {cluster : ClusterRecord}
    (h : client.Sends scope (.promote cluster) request) :
    cluster.idText ≠ "" ∧
      request.body = some (Utf8.encode cluster.promotion.encode.toList) := by
  obtain ⟨plan, planned, sent⟩ := h
  obtain ⟨url, -, -, rfl⟩ := request?_eq sent
  simp only [Call.plan] at planned
  split at planned
  · cases planned
  · next named =>
    cases planned
    exact ⟨fun empty => named (String.isEmpty_iff.mpr empty), rfl⟩

end Client

end Enrollment.Inventory
