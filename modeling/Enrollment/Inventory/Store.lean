import Enrollment.Failure
import Enrollment.Inventory.Call

/-!
# The inventory in memory

A store behaves like the remote inventory for the calls that a registration makes, and keeps
a log of the writes it has accepted. A call that fails changes nothing; in particular an id
is only drawn for a record that is stored. While the store is unavailable every call fails,
but records can still be put in.
-/

namespace Enrollment.Inventory

/-- A write that a store has accepted. -/
inductive Write where
  | createCloud
  | createCluster
  | updateCluster (id : String)
  | promote (id : String)
  | unmanage (id : String)
  | deleteCluster (id : String)
  deriving DecidableEq, Repr

def Write.text : Write → String
  | createCloud => "CreateCloud"
  | createCluster => "CreateCluster"
  | updateCluster id => s!"UpdateCluster {id}"
  | promote id => s!"Promote {id}"
  | unmanage id => s!"Unmanage {id}"
  | deleteCluster id => s!"DeleteCluster {id}"

/-- Records in the order they came in, the writes so far, how many ids have been drawn and
how many reads have been answered. -/
structure Store where
  clouds : List CloudRecord := []
  clusters : List ClusterRecord := []
  writes : List Write := []
  issued : Nat := 0
  reads : Nat := 0
  unavailable : Bool := false
  deriving DecidableEq, Repr, Inhabited

namespace Store

/-- The id with number `n`: the kind of record, and at least four digits. -/
def idText (kind : String) (n : Nat) : String :=
  s!"{kind}-{String.ofList (Duration.zeroPadded 4 n)}"

/-- The id that is drawn next. -/
def nextId (kind : String) (s : Store) : String := idText kind (s.issued + 1)

def cloud? (id : String) (s : Store) : Option CloudRecord :=
  s.clouds.find? (·.id = some id)

def cluster? (id : String) (s : Store) : Option ClusterRecord :=
  s.clusters.find? (·.id = some id)

/-! ## Putting records in -/

/-- A cloud is put in under its own id, or under one that is drawn for it. -/
def insertCloud (cloud : CloudRecord) (s : Store) : String × Store :=
  match cloud.id with
  | some id => (id, { s with clouds := s.clouds ++ [cloud] })
  | none =>
    let id := s.nextId "cloud"
    (id, { s with clouds := s.clouds ++ [{ cloud with id := some id }], issued := s.issued + 1 })

def insertCluster (cluster : ClusterRecord) (s : Store) : String × Store :=
  match cluster.id with
  | some id => (id, { s with clusters := s.clusters ++ [cluster] })
  | none =>
    let id := s.nextId "cluster"
    (id, { s with
      clusters := s.clusters ++ [{ cluster with id := some id }]
      issued := s.issued + 1 })

/-! ## Calls -/

/-- The clusters with `f` applied to the first one that has this id. -/
def modifyFirst (id : String) (f : ClusterRecord → ClusterRecord) :
    List ClusterRecord → Option (List ClusterRecord)
  | [] => none
  | c :: cs => if c.id = some id then some (f c :: cs) else (modifyFirst id f cs).map (c :: ·)

/-- What an update copies from `r`. -/
def updated (r c : ClusterRecord) : ClusterRecord :=
  { c with
    name := r.name
    distro := r.distro
    clusterVersion := r.clusterVersion
    versionString := r.versionString
    capabilities := r.capabilities }

/-- What a promotion makes of a record; `r` may claim it for an identity. -/
def promoted (r c : ClusterRecord) : ClusterRecord :=
  { c with
    install := .known .installed
    managedState := .known .managed
    namespaceName := r.namespaceName
    apiServerUrl := r.apiServerUrl
    credentialId := r.credentialId
    identity := if r.identity.isEmpty then c.identity else r.identity }

def unmanaged (c : ClusterRecord) : ClusterRecord := { c with managedState := .known .unmanaged }

/-- What is stored for a cluster that is to be created. -/
def created (id cloudId : String) (r : ClusterRecord) : ClusterRecord :=
  { r.stamped with
    id := some id
    cloudId := cloudId
    state := .known .pending
    managedState := .known .unmanaged }

/-- The answer to a call and the store behind it, as long as the store is available. -/
def answer (s : Store) : (call : Call) → Except Failure (call.Answer × Store)
  | .getCloud id =>
    match s.cloud? id with
    | some cloud => .ok (cloud, s)
    | none => .error (.notFound (.stored "GetCloud" id))
  | .listClouds => .ok (s.clouds, s)
  | .createCloud cloud =>
    if cloud.id.isSome then .error (.refused (.cloudHasId none))
    else
      let cloud := { cloud with id := some (s.nextId "cloud") }
      .ok (cloud, { s with
        clouds := s.clouds ++ [cloud]
        writes := s.writes ++ [.createCloud]
        issued := s.issued + 1 })
  | .listClusters => .ok (s.clusters, s)
  | .getCluster _ id =>
    match s.cluster? id with
    | some cluster => .ok (cluster, s)
    | none => .error (.notFound (.stored "GetCluster" id))
  | .createCluster cloudId cluster =>
    if cluster.id.isSome then .error (.refused (.clusterHasId none))
    else
      let cluster := created (s.nextId "cluster") cloudId cluster
      .ok (cluster, { s with
        clusters := s.clusters ++ [cluster]
        writes := s.writes ++ [.createCluster]
        issued := s.issued + 1 })
  | .updateCluster _ cluster =>
    match cluster.id with
    | none => .error (.refused .updateWithoutId)
    | some id =>
      match modifyFirst id (updated cluster) s.clusters with
      | none => .error (.notFound (.stored "UpdateCluster" id))
      | some clusters =>
        .ok ((), { s with clusters := clusters, writes := s.writes ++ [.updateCluster id] })
  | .promote cluster =>
    if cluster.idText.isEmpty then .error (.refused .promotionWithoutId)
    else
      match modifyFirst cluster.idText (promoted cluster) s.clusters with
      | none => .error (.notFound (.stored "CreateManagedCluster" cluster.idText))
      | some clusters =>
        .ok ((), { s with clusters := clusters, writes := s.writes ++ [.promote cluster.idText] })
  | .getManagedCluster id =>
    match s.cluster? id with
    | some cluster => .ok (cluster, s)
    | none => .error (.notFound (.stored "GetManagedCluster" id))
  | .unmanage id =>
    match modifyFirst id unmanaged s.clusters with
    | none => .error (.notFound (.stored "UnmanageCluster" id))
    | some clusters =>
      .ok ((), { s with clusters := clusters, writes := s.writes ++ [.unmanage id] })
  | .deleteCluster _ id =>
    if (s.cluster? id).isNone then .error (.notFound (.stored "RemoveCluster" id))
    else
      .ok ((), { s with
        clusters := s.clusters.filter (·.id ≠ some id)
        writes := s.writes ++ [.deleteCluster id] })

/-- Whether a call only reads. Reads are counted, also those that find nothing. -/
def isRead : Call → Bool
  | .getCloud _ | .listClouds | .listClusters | .getCluster _ _ | .getManagedCluster _ => true
  | _ => false

/-- Carry out a call. -/
def perform (call : Call) : StateM Store (Except Failure call.Answer) := fun s =>
  if s.unavailable then
    (.error (.unexpectedStatus .serviceUnavailable (.unavailable call.operation)), s)
  else
    let s := if isRead call then { s with reads := s.reads + 1 } else s
    match s.answer call with
    | .ok (a, s) => (.ok a, s)
    | .error e => (.error e, s)

/-- A store that is unavailable refuses every call and stays as it is. -/
theorem perform_of_unavailable (call : Call) (s : Store) (h : s.unavailable = true) :
    perform call s =
      (.error (.unexpectedStatus .serviceUnavailable (.unavailable call.operation)), s) := by
  simp [perform, h]

end Store

end Enrollment.Inventory
