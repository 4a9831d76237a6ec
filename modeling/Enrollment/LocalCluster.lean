/-!
# What this cluster knows of itself

A registration needs three things from the cluster it runs in: the token that a secret
holds, the version of the cluster, and the identity of its workload. Each may fail to be
found out.
-/

namespace Enrollment

/-- Why a file could not be read as text; a fault of another kind is reported as the machine
describes it. -/
inductive FileFault where
  | notDirectory
  | isDirectory
  | nameTooLong
  | nulInName
  | notUtf8
  | reported (text : String)
  deriving DecidableEq, Repr

def FileFault.message : FileFault → String
  | notDirectory => "Not a directory (os error 20)"
  | isDirectory => "Is a directory (os error 21)"
  | nameTooLong => "File name too long (os error 36)"
  | nulInName => "file name contained an unexpected NUL byte"
  | notUtf8 => "stream did not contain valid UTF-8"
  | reported text => text

/-- Why something about this cluster could not be found out. -/
inductive LookupFault where
  | secretNotFound (name : String)
  | secretMalformed (name detail : String)
  | unavailable (text : String)
  | file (fault : FileFault)
  deriving DecidableEq, Repr

def LookupFault.message : LookupFault → String
  | secretNotFound name => s!"secret '{name}' not found"
  | secretMalformed name detail => s!"secret '{name}' is malformed: {detail}"
  | unavailable text => text
  | file fault => fault.message

/-- The version of a cluster: as it is reported, as a number, and whose it is. -/
structure ClusterVersion where
  reported : String := ""
  semantic : String := ""
  distro : String := ""
  deriving DecidableEq, Repr, Inhabited

structure LocalCluster where
  apiToken : String → Except LookupFault String
  version : Except LookupFault ClusterVersion
  identity : Except LookupFault String

namespace LocalCluster

/-- An identity that is configured must not be empty. -/
def configuredIdentity (identity : String) : Except LookupFault String :=
  if identity.isEmpty then .error (.unavailable "workload identity is not configured")
  else .ok identity

end LocalCluster

end Enrollment
