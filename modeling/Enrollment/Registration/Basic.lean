import Enrollment.Registration.Cluster

/-!
# Registering and unregistering

A registration resolves the cloud, resolves the record of this cluster, and promotes that
record. Nothing is undone when a step fails: a pending record that was left behind is found
by the next attempt, which goes on from there. A cluster that is found registered is left
alone.

An unregistration waits until the private cloud can be listed, and then unmanages the
cluster and deletes its record.
-/

namespace Enrollment.Registration

/-- What a registration is asked for. -/
structure Settings where
  account : String := ""
  cloudId : Option String := none
  clusterId : Option String := none
  clusterName : String := ""
  tokenRef : String := ""
  namespaceName : String := ""
  apiServerUrl : String := ""
  credentialId : String := ""
  deriving DecidableEq, Repr, Inhabited

namespace Settings

/-- The name for a record that has none: the identity, unless a name is given. -/
def nameFor (s : Settings) (identity : String) : String :=
  if s.clusterName.isEmpty then identity else s.clusterName

end Settings

/-- The account to act on, with the token that the secret holds. -/
def scopeOf (cluster : LocalCluster) (s : Settings) : Procedure Scope := do
  if s.account.isEmpty then throw (.refused .accountMissing)
  else
    let token ← Procedure.lookup (.token s.tokenRef) (cluster.apiToken s.tokenRef)
    return ⟨s.account, token⟩

/-- What is now known of a record that is to be promoted. -/
def refreshed (record : ClusterRecord) (name : String) (version : ClusterVersion) :
    ClusterRecord where
  id := some record.idText
  name := if record.name.isEmpty then name else record.name
  distro := version.distro
  clusterVersion := version.semantic
  versionString := version.reported
  capabilities := ClusterRecord.connectorCapabilities

/-- The request to promote a record for the cluster with this identity. -/
def promotionOf (s : Settings) (cloudId identity : String) (r : ClusterRecord) : ClusterRecord :=
  { r with
    cloudId := cloudId
    identity := identity
    namespaceName := s.namespaceName
    apiServerUrl := s.apiServerUrl
    credentialId := s.credentialId }

/-- The cloud that a record says it is in, or else the resolved one. -/
def cloudOf (record : ClusterRecord) (cloudId : String) : String :=
  if record.cloudId.isEmpty then cloudId else record.cloudId

/-- Promote a record that is not registered yet. One that was there before is brought up to
date first. -/
def promote (scope : Scope) (s : Settings) (cloudId identity : String) (resolution : Resolution)
    (version : ClusterVersion) : Procedure String := do
  let record := resolution.record
  let cloudId := cloudOf record cloudId
  let current := refreshed record (s.nameFor identity) version
  if let .adopted _ := resolution then
    Procedure.call scope (.updateCluster cloudId current)
  Procedure.call scope (.promote (promotionOf s cloudId identity current))
  return record.idText

/-- Register this cluster; yields the id of its record. -/
def register (cluster : LocalCluster) (s : Settings) : Procedure String := do
  let scope ← scopeOf cluster s
  let identity ← Procedure.lookup .identity cluster.identity
  let cloudId ← resolveCloud scope s.cloudId
  let resolution ← resolveCluster scope cloudId s.clusterId identity (s.nameFor identity)
  if resolution.isRegistered then return resolution.record.idText
  else
    let version ← Procedure.lookup .version cluster.version
    promote scope s cloudId identity resolution version

/-- Whether the inventory says that a cluster is managed. -/
def isManaged (cluster : LocalCluster) (s : Settings) (clusterId : String) : Procedure Bool := do
  let scope ← scopeOf cluster s
  let record ← Procedure.call scope (.getManagedCluster clusterId)
  return record.managedState = .known .managed

/-- Unmanage a cluster and remove its record from the private cloud. -/
def unregister (cluster : LocalCluster) (s : Settings) (poll : PollPolicy) (clusterId : String) :
    Procedure Unit := do
  let scope ← scopeOf cluster s
  let cloud ← Procedure.poll poll Inventory.Call.listClouds.operation (findPrivateCloud scope)
  match cloud.bind (·.id) with
  | none => throw (.notFound .privateCloud)
  | some cloudId =>
    Procedure.call scope (.unmanage clusterId)
    Procedure.call scope (.deleteCluster cloudId clusterId)

end Enrollment.Registration
