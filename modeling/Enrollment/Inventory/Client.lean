import Enrollment.Inventory.Resource
import Enrollment.Inventory.Store
import Enrollment.Net.Address
import Enrollment.Record.Listing

/-!
# The inventory over HTTP

A client turns each call into one logical request and is strict about the reply: any status
but the accepted one is a failure, and so is a body that cannot be decoded. Idempotent
writes are tried again; everything else, creating above all, is tried once, because a
creation that was carried out and not acknowledged would be carried out twice.
-/

namespace Enrollment.Inventory

open Http

/-- Which statuses a call accepts. -/
inductive Accepted where
  | exactly (status : Status)
  | upToNoContent
  deriving DecidableEq, Repr

def Accepted.holds (status : Status) : Accepted → Bool
  | exactly wanted => status = wanted
  | upToNoContent => status.isSuccess && status.code ≤ Status.noContent.code

/-- The request that carries out a call. `canBeMissing` says that a missing resource is told
apart from other failures. -/
structure Plan where
  method : Method
  resource : Resource
  body : Option Bytes := none
  accepted : Accepted
  canBeMissing : Bool := false
  repeatable : Bool := false
  deriving DecidableEq, Repr

namespace Plan

/-- The plan of a call that yields what it reads. -/
def read (resource : Resource) (canBeMissing : Bool) : Plan where
  method := .get
  resource := resource
  accepted := .exactly .ok
  canBeMissing := canBeMissing

def create (resource : Resource) (body : String) (repeatable : Bool) : Plan where
  method := .post
  resource := resource
  body := some (Utf8.encode body.toList)
  accepted := .exactly .created
  repeatable := repeatable

def replace (resource : Resource) (body : String) : Plan where
  method := .put
  resource := resource
  body := some (Utf8.encode body.toList)
  accepted := .upToNoContent
  repeatable := true

def delete (resource : Resource) : Plan where
  method := .delete
  resource := resource
  accepted := .exactly .noContent

end Plan

namespace Call

/-- The request for a call, unless the call is refused. -/
def plan : Call → Except Refusal Plan
  | getCloud cloudId => .ok (.read (.cloud cloudId) true)
  | listClouds => .ok (.read .clouds false)
  | createCloud cloud =>
    match cloud.id with
    | some id => .error (.cloudHasId (some id))
    | none => .ok (.create .clouds cloud.encode false)
  | listClusters => .ok (.read .clusters false)
  | getCluster cloudId clusterId => .ok (.read (.cloudCluster cloudId clusterId) true)
  | createCluster cloudId cluster =>
    match cluster.id with
    | some id => .error (.clusterHasId (some id))
    | none => .ok (.create (.cloudClusters cloudId) cluster.stamped.encode false)
  | updateCluster cloudId cluster =>
    match cluster.id with
    | none => .error .updateWithoutId
    | some id =>
      let body := { cluster.stamped with id := none }
      .ok (.replace (.cloudCluster cloudId id) body.encode)
  | promote cluster =>
    if cluster.idText.isEmpty then .error .promotionWithoutId
    else .ok (.create .managedClusters cluster.promotion.encode true)
  | getManagedCluster clusterId => .ok (.read (.managedCluster clusterId) true)
  | unmanage clusterId => .ok (.delete (.managedCluster clusterId))
  | deleteCluster cloudId clusterId => .ok (.delete (.cloudCluster cloudId clusterId))

/-- What decoding the body of a reply yields. -/
def decoded {α : Type} (target : Target) (reply : Reply)
    (decode : List UInt8 → Except Json.Fault α) : Except Failure α :=
  (decode reply.body).mapError (.undecodable target reply.status reply.text)

/-- What an accepted reply answers. A cluster that was created has an id. -/
def answerOf (target : Target) (reply : Reply) : (call : Call) → Except Failure call.Answer
  | getCloud _ | createCloud _ => decoded target reply CloudRecord.decode
  | listClouds => (decoded target reply Listing.clouds.decode).map (·.items)
  | listClusters => (decoded target reply Listing.clusters.decode).map (·.items)
  | getCluster _ _ | getManagedCluster _ => decoded target reply ClusterRecord.decode
  | createCluster _ _ => do
    let cluster ← decoded target reply ClusterRecord.decode
    if cluster.idText.isEmpty then
      .error (.unexpectedStatus reply.status (.createdWithoutId target reply.text))
    else .ok cluster
  | updateCluster _ _ | promote _ | unmanage _ | deleteCluster _ _ => .ok ()

/-- What a reply means for a call. -/
def interpret (call : Call) (plan : Plan) (target : Target) (reply : Reply) :
    Except Failure call.Answer :=
  if plan.canBeMissing ∧ reply.status = .notFound then .error (.notFound (.resource target))
  else if plan.accepted.holds reply.status then call.answerOf target reply
  else .error (.unexpectedStatus reply.status (.status target reply.text))

end Call

/-- How connections to an inventory are made. -/
structure Connection where
  skipTlsValidation : Bool := false
  hostAlias : Option Address := none
  connectTimeout : Duration := Duration.ofSeconds 30
  deriving DecidableEq, Repr

/-- An inventory that is reached over HTTP, and how often requests to it are tried. -/
structure Client where
  hostUrl : String
  reads : RetryPolicy := .single
  writes : RetryPolicy := .withAttempts 3
  deriving DecidableEq, Repr

namespace Client

/-- `hostUrl` without the slashes at its end. -/
def trimSlashes (hostUrl : String) : String :=
  String.ofList (hostUrl.toList.reverse.dropWhile (· = '/')).reverse

def ofHost (hostUrl : String) : Client := { hostUrl := trimSlashes hostUrl }

/-- A client with connections of its own. An alias needs a host that it can stand for. -/
def connect [Url.Idna] (hostUrl : String) (connection : Connection) : Except Failure Client :=
  match connection.hostAlias, hostOfUrl hostUrl with
  | some _, .error e => .error (.refused (.invalidHost e))
  | _, _ => .ok (ofHost hostUrl)

def url (client : Client) (account : String) (r : Resource) : String :=
  r.url client.hostUrl account

def policy (client : Client) (plan : Plan) : RetryPolicy :=
  if plan.repeatable then client.writes else client.reads

/-- The value of the header that carries the token. -/
def bearer (token : String) : String := s!"Bearer {token}"

def target (client : Client) (scope : Scope) (call : Call) (plan : Plan) : Target :=
  ⟨call.operation, plan.method, client.url scope.account plan.resource⟩

def order (client : Client) (scope : Scope) (plan : Plan) : Order where
  method := plan.method
  url := client.url scope.account plan.resource
  headers := [(Header.authorization, bearer scope.token)]
  body := plan.body

/-- Carry out a call. -/
def perform [Url.Idna] {σ : Type} (net : Network σ) (client : Client) (scope : Scope)
    (call : Call) : StateM (Wire σ) (Except Failure call.Answer) :=
  match call.plan with
  | .error why => pure (.error (.refused why))
  | .ok plan =>
    if Header.isValue (bearer scope.token) then do
      match ← net.execute (client.policy plan) (client.order scope plan) with
      | .error e => pure (.error (.noReply (client.target scope call plan) e))
      | .ok reply => pure (call.interpret plan (client.target scope call plan) reply)
    else pure (.error (.refused .tokenNotSendable))

end Client

end Enrollment.Inventory
