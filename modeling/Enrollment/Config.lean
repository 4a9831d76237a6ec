import Enrollment.Registration.Basic

/-!
# Configuration

A registration is configured by named variables. A variable that holds the empty text counts
as not set. Three of them can be wrong, and the first that is decides what is reported.
-/

namespace Enrollment

/-- Why there is no configuration. -/
inductive ConfigFault where
  | accountMissing
  | badFlag (value : String)
  | badAddress (value : String)
  deriving DecidableEq, Repr

/-- What is reported, followed by what caused it. -/
def ConfigFault.messages : ConfigFault → List String
  | accountMissing => ["REGISTRAR_ACCOUNT_ID is required"]
  | badFlag value =>
    [s!"REGISTRAR_SKIP_TLS_VALIDATION must be true or false, got '{value}'"]
  | badAddress value =>
    [s!"REGISTRAR_HOST_ALIAS_IP is not an IP address: '{value}'", "invalid IP address syntax"]

structure Config where
  hostUrl : String
  account : String
  cloudId : Option String
  clusterId : Option String
  clusterName : String
  tokenRef : String
  secretsDir : String
  skipTlsValidation : Bool
  hostAlias : Option Address
  namespaceName : String
  apiServerUrl : String
  credentialId : String
  identity : String
  clusterVersion : String
  distro : String
  logLevel : String
  deriving DecidableEq, Repr

namespace Config

def defaultHostUrl : String := "https://astra.netapp.io"

def defaultTokenRef : String := "astra-api-token"

def defaultSecretsDir : String := "/etc/registrar/secrets"

def defaultLogLevel : String := "info"

/-- A flag is off unless it is set. -/
def flag? : Option String → Except ConfigFault Bool
  | none | some "false" | some "0" => .ok false
  | some "true" | some "1" => .ok true
  | some other => .error (.badFlag other)

def address? : Option String → Except ConfigFault (Option Address)
  | none => .ok none
  | some value =>
    match Address.parse? value with
    | some address => .ok (some address)
    | none => .error (.badAddress value)

/-- The configuration that the variables hold. -/
def ofLookup (lookup : String → Option String) : Except ConfigFault Config := do
  let var (name : String) : Option String := (lookup name).filter (! ·.isEmpty)
  let some account := var "REGISTRAR_ACCOUNT_ID" | throw .accountMissing
  let skipTlsValidation ← flag? (var "REGISTRAR_SKIP_TLS_VALIDATION")
  let hostAlias ← address? (var "REGISTRAR_HOST_ALIAS_IP")
  return {
    hostUrl := Inventory.Client.trimSlashes ((var "REGISTRAR_HOST_URL").getD defaultHostUrl)
    account := account
    cloudId := var "REGISTRAR_CLOUD_ID"
    clusterId := var "REGISTRAR_CLUSTER_ID"
    clusterName := (var "REGISTRAR_CLUSTER_NAME").getD ""
    tokenRef := (var "REGISTRAR_TOKEN_REF").getD defaultTokenRef
    secretsDir := (var "REGISTRAR_SECRETS_DIR").getD defaultSecretsDir
    skipTlsValidation := skipTlsValidation
    hostAlias := hostAlias
    namespaceName := (var "REGISTRAR_NAMESPACE").getD ""
    apiServerUrl := (var "REGISTRAR_API_SERVER_URL").getD ""
    credentialId := (var "REGISTRAR_CREDENTIAL_ID").getD ""
    identity := (var "REGISTRAR_API_SERVICE_ID").getD ""
    clusterVersion := (var "REGISTRAR_K8S_VERSION").getD ""
    distro := (var "REGISTRAR_DISTRO").getD ""
    logLevel := (var "REGISTRAR_LOG_LEVEL").getD defaultLogLevel }

/-- What a registration is asked for. -/
def settings (c : Config) : Registration.Settings where
  account := c.account
  cloudId := c.cloudId
  clusterId := c.clusterId
  clusterName := c.clusterName
  tokenRef := c.tokenRef
  namespaceName := c.namespaceName
  apiServerUrl := c.apiServerUrl
  credentialId := c.credentialId

def connection (c : Config) : Inventory.Connection where
  skipTlsValidation := c.skipTlsValidation
  hostAlias := c.hostAlias

/-- The number in a version: without the letters in front, and up to a suffix. -/
def semanticVersion (version : String) : String :=
  String.ofList ((version.toList.dropWhile (· = 'v')).takeWhile fun c => c ≠ '-' && c ≠ '+')

def version (c : Config) : ClusterVersion where
  reported := c.clusterVersion
  semantic := semanticVersion c.clusterVersion
  distro := c.distro

/-- This cluster, as far as it is configured; tokens are looked up elsewhere. -/
def localCluster (c : Config) (apiToken : String → Except LookupFault String) :
    LocalCluster where
  apiToken := apiToken
  version := .ok c.version
  identity := LocalCluster.configuredIdentity c.identity

example : semanticVersion "v1.29.4+k3s1" = "1.29.4" := by decide +kernel

end Config

end Enrollment
