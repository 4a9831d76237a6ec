/-!
# Resources

The places of the inventory, below the topology of an account.
-/

namespace Enrollment.Inventory

inductive Resource where
  | clouds
  | cloud (cloudId : String)
  | cloudClusters (cloudId : String)
  | cloudCluster (cloudId clusterId : String)
  | clusters
  | managedClusters
  | managedCluster (clusterId : String)
  deriving DecidableEq, Repr

namespace Resource

/-- The path below the topology; ids are taken as they are. -/
def path : Resource → String
  | clouds => "clouds"
  | cloud cloudId => s!"clouds/{cloudId}"
  | cloudClusters cloudId => s!"clouds/{cloudId}/clusters"
  | cloudCluster cloudId clusterId => s!"clouds/{cloudId}/clusters/{clusterId}"
  | clusters => "clusters"
  | managedClusters => "managedClusters"
  | managedCluster clusterId => s!"managedClusters/{clusterId}"

/-- The URL for an account of the inventory at `hostUrl`. -/
def url (hostUrl account : String) (r : Resource) : String :=
  s!"{hostUrl}/accounts/{account}/topology/v1/{r.path}"

end Resource

end Enrollment.Inventory
