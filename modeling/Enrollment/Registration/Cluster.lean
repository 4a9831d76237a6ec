import Enrollment.Registration.Cloud

/-!
# Resolving the cluster

The record of this cluster is found by its identity: a record that a connector tracks is
taken up again, and only if there is none a pending one is created. An id that is configured
is an assertion about an existing record and never leads to a new one; it is refused when
another record is tracked for the same identity.
-/

namespace Enrollment.Registration

/-- The record of this cluster and how it was come by. -/
inductive Resolution where
  | registered (record : ClusterRecord)
  | adopted (record : ClusterRecord)
  | created (record : ClusterRecord)
  deriving DecidableEq, Repr

namespace Resolution

def record : Resolution → ClusterRecord
  | registered r | adopted r | created r => r

def isRegistered : Resolution → Bool
  | registered _ => true
  | _ => false

end Resolution

/-- The first record that is tracked for an identity. -/
def tracked? (identity : String) (clusters : List ClusterRecord) : Option ClusterRecord :=
  clusters.find? (·.isTrackedFor identity)

/-- The first record with another id than `id` that is tracked for the identity. -/
def rival? (identity id : String) (clusters : List ClusterRecord) : Option ClusterRecord :=
  clusters.find? fun r => r.idText ≠ id && r.isTrackedFor identity

/-- The record in the inventory that is tracked for an identity, if there is one. -/
def findTracked (scope : Scope) (identity : String) : Procedure (Option ClusterRecord) := do
  return tracked? identity (← Procedure.call scope .listClusters)

def findRival (scope : Scope) (identity id : String) : Procedure (Option ClusterRecord) := do
  return rival? identity id (← Procedure.call scope .listClusters)

/-- What an existing record means for this cluster. -/
def classify (identity : String) (r : ClusterRecord) : Except Failure Resolution :=
  match r.standing identity with
  | .registered => .ok (.registered r)
  | .promotable => .ok (.adopted r)
  | .incompatible why => .error (.incompatible r.idText why)

/-- The record that is created for a cluster. -/
def pendingRecord (cloudId identity name : String) : ClusterRecord where
  name := name
  cloudId := cloudId
  identity := identity
  install := .known .pending
  capabilities := ClusterRecord.connectorCapabilities

/-- The record that carries the identity, or a new one. -/
def resolveByIdentity (scope : Scope) (cloudId identity name : String) : Procedure Resolution := do
  match ← findTracked scope identity with
  | some record => Procedure.ofExcept (classify identity record)
  | none =>
    let created ← Procedure.call scope (.createCluster cloudId (pendingRecord cloudId identity name))
    return .created created

/-- The record with the configured id. -/
def resolveConfigured (scope : Scope) (cloudId id identity : String) : Procedure Resolution := do
  let record ← Procedure.callOr (.cluster id cloudId) scope (.getCluster cloudId id)
  let resolution ← Procedure.ofExcept (classify identity record)
  if resolution.isRegistered then return resolution
  else
    match ← findRival scope identity id with
    | some rival => throw (.identityConflict identity rival.idText id)
    | none => return resolution

/-- The record of the cluster with the given identity. -/
def resolveCluster (scope : Scope) (cloudId : String) (configured : Option String)
    (identity name : String) : Procedure Resolution :=
  if identity.isEmpty then throw (.refused .identityMissing)
  else
    match configuredId? configured with
    | some id => resolveConfigured scope cloudId id identity
    | none => resolveByIdentity scope cloudId identity name

end Enrollment.Registration
