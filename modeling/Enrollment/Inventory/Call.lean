import Enrollment.Record.Cluster
import Enrollment.Text.Quoted

/-!
# Calls to the inventory

The eleven operations that an inventory offers, and what each of them answers. What carries
a call out is left open: the inventory may be at the other end of a network, or in memory.
-/

namespace Enrollment

/-- The account that calls are made for, and the token that permits it. -/
structure Scope where
  account : String
  token : String
  deriving DecidableEq, Repr

/-- A scope as it may be shown: the token is never printed. -/
def Scope.shown (s : Scope) : String :=
  "AccountScope \x7b account_id: " ++ Text.quoted s.account ++ ", token: ApiToken(****) \x7d"

namespace Inventory

inductive Call where
  | getCloud (cloudId : String)
  | listClouds
  | createCloud (cloud : CloudRecord)
  | listClusters
  | getCluster (cloudId clusterId : String)
  | createCluster (cloudId : String) (cluster : ClusterRecord)
  | updateCluster (cloudId : String) (cluster : ClusterRecord)
  | promote (cluster : ClusterRecord)
  | getManagedCluster (clusterId : String)
  | unmanage (clusterId : String)
  | deleteCluster (cloudId clusterId : String)
  deriving DecidableEq, Repr

namespace Call

/-- What a successful call yields. -/
abbrev Answer : Call → Type
  | getCloud _ | createCloud _ => CloudRecord
  | listClouds => List CloudRecord
  | listClusters => List ClusterRecord
  | getCluster _ _ | createCluster _ _ | getManagedCluster _ => ClusterRecord
  | updateCluster _ _ | promote _ | unmanage _ | deleteCluster _ _ => Unit

/-- The name under which failures of the call are reported. -/
def operation : Call → String
  | getCloud _ => "GetCloud"
  | listClouds => "ListClouds"
  | createCloud _ => "CreateCloud"
  | listClusters => "ListClusters"
  | getCluster _ _ => "GetCluster"
  | createCluster _ _ => "CreateCluster"
  | updateCluster _ _ => "UpdateCluster"
  | promote _ => "CreateManagedCluster"
  | getManagedCluster _ => "GetManagedCluster"
  | unmanage _ => "UnmanageCluster"
  | deleteCluster _ _ => "RemoveCluster"

end Call

end Inventory

end Enrollment
