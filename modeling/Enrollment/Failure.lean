import Enrollment.Compatibility
import Enrollment.Diagnostic
import Enrollment.Http.Transport
import Enrollment.Json.Fault
import Enrollment.LocalCluster

/-!
# Failures of a registration

Why an operation on the inventory, or a registration as a whole, did not succeed. A failure
holds its cause; `Failure.reason` is what an operator is told. Failures that no retry can
change are terminal.
-/

namespace Enrollment

/-- The request that a failure is about. -/
structure Target where
  operation : String
  method : Http.Method
  url : String
  deriving DecidableEq, Repr

/-- A diagnostic about the request itself. -/
def Target.diagnostic (t : Target) : Diagnostic where
  operation := t.operation
  action := s!"make {t.method.text} call"
  url := t.url

/-- Why something was refused before anything was sent. The id that a record to be created
must not have is named where it is known. -/
inductive Refusal where
  | accountMissing
  | identityMissing
  | clusterIdMissing
  | tokenNotSendable
  | invalidHost (error : Http.TransportError)
  | cloudHasId (id : Option String)
  | clusterHasId (id : Option String)
  | updateWithoutId
  | promotionWithoutId
  | createdCloudWithoutId
  deriving DecidableEq, Repr

namespace Refusal

def idMustNotBeSet (operation kind : String) (id : Option String) : String :=
  let shown := (id.map fun id => s!" '{id}'").getD ""
  s!"{operation}: {kind} id{shown} must not be set on create"

def message : Refusal → String
  | accountMissing => "account id is required"
  | identityMissing =>
    "apiServiceID of this cluster is empty; cannot resolve its cluster record"
  | clusterIdMissing => "a cluster id is required (--cluster-id or REGISTRAR_CLUSTER_ID)"
  | tokenNotSendable => "API token contains characters not allowed in a header"
  | invalidHost error => s!"Failed to set up HTTP client: {error.message}"
  | cloudHasId id => idMustNotBeSet "CreateCloud" "cloud" id
  | clusterHasId id => idMustNotBeSet "CreateCluster" "cluster" id
  | updateWithoutId => "UpdateCluster: cluster id is required"
  | promotionWithoutId => "CreateManagedCluster: cluster id is required to manage a cluster"
  | createdCloudWithoutId => "Got empty cloud id from POST call to clouds"

end Refusal

/-- What was looked for and is not there. -/
inductive Missing where
  | resource (target : Target)
  | stored (operation id : String)
  | cloud (id : String)
  | cluster (id cloudId : String)
  | privateCloud
  deriving DecidableEq, Repr

def Missing.message : Missing → String
  | resource target =>
    { target.diagnostic with
      status := some .notFound
      error := some "resource not found" : Diagnostic }.text
  | stored operation id => s!"{operation}: {id} not found"
  | cloud id => s!"cloud '{id}' does not exist"
  | cluster id cloudId => s!"cluster '{id}' does not exist in cloud '{cloudId}'"
  | privateCloud => "private cloud does not exist; nothing to unregister"

/-- An answer that was not the expected one. -/
inductive Unexpected where
  | status (target : Target) (body : String)
  | createdWithoutId (target : Target) (body : String)
  | unavailable (operation : String)
  deriving DecidableEq, Repr

def Unexpected.message (status : Http.Status) : Unexpected → String
  | .status target body =>
    { target.diagnostic with status := some status, body := some body : Diagnostic }.text
  | createdWithoutId target body =>
    { target.diagnostic with
      action := "get clusterId in response from POST call"
      status := some status
      body := some body : Diagnostic }.text
  | unavailable operation => s!"{operation}: inventory unavailable"

/-- What was to be found out about this cluster. -/
inductive Subject where
  | token (secret : String)
  | identity
  | version
  deriving DecidableEq, Repr

def Subject.message : Subject → String
  | token secret => s!"Failed to get API token from secret '{secret}'"
  | identity => "Failed to get the apiServiceID of this cluster"
  | version => "Failed to get the Kubernetes version of this cluster"

inductive Failure where
  | noReply (target : Target) (error : Http.TransportError)
  | unexpectedStatus (status : Http.Status) (cause : Unexpected)
  | notFound (what : Missing)
  | undecodable (target : Target) (status : Http.Status) (body : String) (fault : Json.Fault)
  | refused (why : Refusal)
  | incompatible (clusterId : String) (why : Incompatibility)
  | identityConflict (identity found configured : String)
  | lookup (subject : Subject) (fault : LookupFault)
  | unfinished (poll : PollFailure)
  deriving DecidableEq, Repr

namespace Failure

/-- What an operator is told. -/
def reason : Failure → String
  | noReply target error =>
    { target.diagnostic with error := some error.message : Diagnostic }.text
  | unexpectedStatus status cause => cause.message status
  | notFound what => what.message
  | undecodable target status body fault =>
    { target.diagnostic with
      action := s!"unmarshal response from {target.method.text} call"
      status := some status
      error := some fault.message
      body := some body : Diagnostic }.text
  | refused why => why.message
  | incompatible clusterId why =>
    s!"clusterId '{clusterId}' is incompatible with this cluster: {why.message}"
  | identityConflict identity found configured =>
    s!"apiServiceID matches but the clusterId does not: apiServiceID '{identity}' belongs to "
      ++ s!"clusterId '{found}', configured clusterId is '{configured}'"
  | lookup subject fault => s!"{subject.message}: {fault.message}"
  | unfinished _ => "timed out querying the inventory API"

/-- Whether an operator has to act, because trying again cannot help. -/
def isTerminal : Failure → Bool
  | notFound _ | refused _ | incompatible _ _ | identityConflict _ _ _ => true
  | _ => false

end Failure

end Enrollment
