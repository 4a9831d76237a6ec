import Enrollment.Record.Cloud

/-!
# Cluster records

A cluster record ties a physical cluster, known by its workload identity, to the account it
is managed in. A record that a connector has tracked has a connector state; records without
one are left over from before and never stand for a cluster that is registered now.
-/

namespace Enrollment

structure ClusterRecord where
  id : Option String := none
  typeTag : String := ""
  version : String := ""
  name : String := ""
  state : ClusterState := .unset
  managedState : ManagedState := .unset
  desiredState : ManagedState := .unset
  cloudId : String := ""
  identity : String := ""
  install : ConnectorInstall := .unset
  distro : String := ""
  clusterVersion : String := ""
  versionString : String := ""
  namespaceName : String := ""
  apiServerUrl : String := ""
  credentialId : String := ""
  capabilities : List String := []
  deriving DecidableEq, Repr, Inhabited

namespace ClusterRecord

def layout : Json.Layout ClusterRecord where
  title := "struct ClusterRecord"
  blank := {}
  fields := [
    .optionalText "id" id fun x r => { r with id := x },
    .text "type" typeTag fun x r => { r with typeTag := x },
    .text "version" version fun x r => { r with version := x },
    .text "name" name fun x r => { r with name := x },
    .tag "state" state fun x r => { r with state := x },
    .tag "managedState" managedState fun x r => { r with managedState := x },
    .tag "tridentManagedStateDesired" desiredState fun x r => { r with desiredState := x },
    .text "cloudID" cloudId fun x r => { r with cloudId := x },
    .text "apiServiceID" identity fun x r => { r with identity := x },
    .tag "connectorInstall" install fun x r => { r with install := x },
    .text "clusterType" distro fun x r => { r with distro := x },
    .text "clusterVersion" clusterVersion fun x r => { r with clusterVersion := x },
    .text "clusterVersionString" versionString fun x r => { r with versionString := x },
    .text "namespace" namespaceName fun x r => { r with namespaceName := x },
    .text "apiServerURL" apiServerUrl fun x r => { r with apiServerUrl := x },
    .text "credentialID" credentialId fun x r => { r with credentialId := x },
    .texts "connectorCapabilities" capabilities fun x r => { r with capabilities := x }]

def encode (r : ClusterRecord) : String := layout.encode r

def decode (s : List UInt8) : Except Json.Fault ClusterRecord := layout.decode s

/-- The id, which is empty for a record that has not been created yet. -/
def idText (r : ClusterRecord) : String := r.id.getD ""

/-- What a connector can do. -/
def connectorCapabilities : List String := ["relayV1", "watcherV1"]

/-- Whether a connector tracks this record for the cluster with the given identity. -/
def isTrackedFor (identity : String) (r : ClusterRecord) : Bool :=
  r.identity = identity && !r.install.isUnset

/-- Marked as the record of a cluster. -/
def stamped (r : ClusterRecord) : ClusterRecord :=
  { r with typeTag := "application/astra-cluster", version := "1.6" }

/-- Marked as a request to manage the cluster, with the states it will have then. -/
def promotion (r : ClusterRecord) : ClusterRecord :=
  { r with
    typeTag := "application/astra-managedCluster"
    version := "1.2"
    desiredState := .known .managed
    install := .known .installed }

@[simp] theorem id_stamped (r : ClusterRecord) : r.stamped.id = r.id := rfl

@[simp] theorem id_promotion (r : ClusterRecord) : r.promotion.id = r.id := rfl

end ClusterRecord

end Enrollment
