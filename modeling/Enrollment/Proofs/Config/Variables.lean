import Enrollment.Config
import Enrollment.Proofs.Inventory.Urls

/-!
# What the variables decide

Every value of a configuration, and of what is made of it, comes from one variable. `Feeds` is the
table: which variable it is, and how the value is read off. `Has` lists what can be wrong with the
variables. Both speak of the variables as they are given, which leaves the empty ones out, and
together they say all there is to say about a configuration: `outcome`.
-/

namespace Enrollment.Config

open Inventory

variable {lookup other : String → Option String} {name value : String} {fault : ConfigFault}
  {c d : Config} {α : Type}

/-- The variables without those that are empty. -/
def given? (lookup : String → Option String) (name : String) : Option String :=
  (lookup name).filter (! ·.isEmpty)

/-! ## What can be wrong -/

/-- What is wrong with the variables. -/
inductive Has (lookup : String → Option String) : ConfigFault → Prop
  | accountMissing (missing : given? lookup "REGISTRAR_ACCOUNT_ID" = none) :
      Has lookup .accountMissing
  | badFlag {value : String} (given : given? lookup "REGISTRAR_SKIP_TLS_VALIDATION" = some value)
      (bad : value ∉ ["true", "1", "false", "0"]) : Has lookup (.badFlag value)
  | badAddress {value : String} (given : given? lookup "REGISTRAR_HOST_ALIAS_IP" = some value)
      (bad : Address.parse? value = none) : Has lookup (.badAddress value)

theorem has_accountMissing_iff :
    Has lookup .accountMissing ↔ given? lookup "REGISTRAR_ACCOUNT_ID" = none :=
  ⟨fun | .accountMissing missing => missing, .accountMissing⟩

theorem has_badFlag_iff : Has lookup (.badFlag value) ↔
    given? lookup "REGISTRAR_SKIP_TLS_VALIDATION" = some value ∧
      value ∉ ["true", "1", "false", "0"] :=
  ⟨fun | .badFlag given bad => ⟨given, bad⟩, fun ⟨given, bad⟩ => .badFlag given bad⟩

theorem has_badAddress_iff : Has lookup (.badAddress value) ↔
    given? lookup "REGISTRAR_HOST_ALIAS_IP" = some value ∧ Address.parse? value = none :=
  ⟨fun | .badAddress given bad => ⟨given, bad⟩, fun ⟨given, bad⟩ => .badAddress given bad⟩

/-- The variable that a fault lies with. -/
def culprit : ConfigFault → String
  | .accountMissing => "REGISTRAR_ACCOUNT_ID"
  | .badFlag _ => "REGISTRAR_SKIP_TLS_VALIDATION"
  | .badAddress _ => "REGISTRAR_HOST_ALIAS_IP"

/-- Whether there is a fault is up to the variable that it lies with. -/
theorem has_congr (same : lookup (culprit fault) = other (culprit fault)) :
    Has lookup fault ↔ Has other fault := by
  have given : given? lookup (culprit fault) = given? other (culprit fault) := by
    rw [given?, given?, same]
  cases fault with
  | accountMissing => simp only [has_accountMissing_iff]; rw [← culprit, given]
  | badFlag value => simp only [has_badFlag_iff]; rw [← culprit, given]
  | badAddress value => simp only [has_badAddress_iff]; rw [← culprit, given]

/-- What is reported begins with the variable that is at fault. -/
theorem exists_messages_eq (fault : ConfigFault) :
    ∃ about causes, fault.messages = (culprit fault ++ about) :: causes := by
  have flag : "REGISTRAR_SKIP_TLS_VALIDATION must be true or false, got '" =
      "REGISTRAR_SKIP_TLS_VALIDATION" ++ " must be true or false, got '" := rfl
  have address : "REGISTRAR_HOST_ALIAS_IP is not an IP address: '" =
      "REGISTRAR_HOST_ALIAS_IP" ++ " is not an IP address: '" := rfl
  cases fault with
  | accountMissing => exact ⟨" is required", _, rfl⟩
  | badFlag value =>
      refine ⟨" must be true or false, got '" ++ (value ++ "'"), [], ?_⟩
      rw [culprit, ← String.append_assoc, ← flag, ← String.append_assoc]
      rfl
  | badAddress value =>
      refine ⟨" is not an IP address: '" ++ (value ++ "'"), ["invalid IP address syntax"], ?_⟩
      rw [culprit, ← String.append_assoc, ← address, ← String.append_assoc]
      rfl

/-- Where a fault stands in the order in which they are looked for. -/
def rank : ConfigFault → Nat
  | .accountMissing => 0
  | .badFlag _ => 1
  | .badAddress _ => 2

/-- The variables have this fault, and none that is looked for earlier. -/
def HasFirst (lookup : String → Option String) (fault : ConfigFault) : Prop :=
  Has lookup fault ∧ ∀ other, Has lookup other → rank fault ≤ rank other

theorem HasFirst.eq {fault' : ConfigFault} (first : HasFirst lookup fault)
    (first' : HasFirst lookup fault') : fault = fault' := by
  have same : rank fault = rank fault' :=
    Nat.le_antisymm (first.2 fault' first'.1) (first'.2 fault first.1)
  obtain ⟨has, -⟩ := first
  obtain ⟨has', -⟩ := first'
  cases has <;> cases has' <;> simp_all [rank]

/-! ## What comes from where -/

/-- A configuration with all that is made of it. -/
structure Whole where
  config : Config
  settings : Registration.Settings
  connection : Connection
  version : ClusterVersion

def whole (c : Config) : Whole where
  config := c
  settings := c.settings
  connection := c.connection
  version := c.version

/-- Which variable feeds a value, and how the value is read off what the variable is given as. -/
inductive Feeds : String → ∀ {α : Type}, (Whole → α) → (Option String → α) → Prop
  | hostUrl : Feeds "REGISTRAR_HOST_URL" (·.config.hostUrl)
      fun given => Client.trimSlashes (given.getD defaultHostUrl)
  | account : Feeds "REGISTRAR_ACCOUNT_ID" (·.config.account) (·.getD "")
  | cloudId : Feeds "REGISTRAR_CLOUD_ID" (·.config.cloudId) id
  | clusterId : Feeds "REGISTRAR_CLUSTER_ID" (·.config.clusterId) id
  | clusterName : Feeds "REGISTRAR_CLUSTER_NAME" (·.config.clusterName) (·.getD "")
  | tokenRef : Feeds "REGISTRAR_TOKEN_REF" (·.config.tokenRef) (·.getD defaultTokenRef)
  | secretsDir : Feeds "REGISTRAR_SECRETS_DIR" (·.config.secretsDir) (·.getD defaultSecretsDir)
  | skipTlsValidation : Feeds "REGISTRAR_SKIP_TLS_VALIDATION" (·.config.skipTlsValidation)
      fun given => given = some "true" || given = some "1"
  | hostAlias : Feeds "REGISTRAR_HOST_ALIAS_IP" (·.config.hostAlias) (·.bind Address.parse?)
  | namespaceName : Feeds "REGISTRAR_NAMESPACE" (·.config.namespaceName) (·.getD "")
  | apiServerUrl : Feeds "REGISTRAR_API_SERVER_URL" (·.config.apiServerUrl) (·.getD "")
  | credentialId : Feeds "REGISTRAR_CREDENTIAL_ID" (·.config.credentialId) (·.getD "")
  | identity : Feeds "REGISTRAR_API_SERVICE_ID" (·.config.identity) (·.getD "")
  | clusterVersion : Feeds "REGISTRAR_K8S_VERSION" (·.config.clusterVersion) (·.getD "")
  | distro : Feeds "REGISTRAR_DISTRO" (·.config.distro) (·.getD "")
  | logLevel : Feeds "REGISTRAR_LOG_LEVEL" (·.config.logLevel) (·.getD defaultLogLevel)
  | settingsAccount : Feeds "REGISTRAR_ACCOUNT_ID" (·.settings.account) (·.getD "")
  | settingsCloudId : Feeds "REGISTRAR_CLOUD_ID" (·.settings.cloudId) id
  | settingsClusterId : Feeds "REGISTRAR_CLUSTER_ID" (·.settings.clusterId) id
  | settingsClusterName : Feeds "REGISTRAR_CLUSTER_NAME" (·.settings.clusterName) (·.getD "")
  | settingsTokenRef : Feeds "REGISTRAR_TOKEN_REF" (·.settings.tokenRef) (·.getD defaultTokenRef)
  | settingsNamespaceName : Feeds "REGISTRAR_NAMESPACE" (·.settings.namespaceName) (·.getD "")
  | settingsApiServerUrl : Feeds "REGISTRAR_API_SERVER_URL" (·.settings.apiServerUrl) (·.getD "")
  | settingsCredentialId : Feeds "REGISTRAR_CREDENTIAL_ID" (·.settings.credentialId) (·.getD "")
  | connectionSkips : Feeds "REGISTRAR_SKIP_TLS_VALIDATION" (·.connection.skipTlsValidation)
      fun given => given = some "true" || given = some "1"
  | connectionAlias : Feeds "REGISTRAR_HOST_ALIAS_IP" (·.connection.hostAlias)
      (·.bind Address.parse?)
  | reported : Feeds "REGISTRAR_K8S_VERSION" (·.version.reported) (·.getD "")
  | semantic : Feeds "REGISTRAR_K8S_VERSION" (·.version.semantic)
      fun given => semanticVersion (given.getD "")
  | versionDistro : Feeds "REGISTRAR_DISTRO" (·.version.distro) (·.getD "")

/-- Every value is what its variable feeds. -/
def Whole.IsFed (w : Whole) (lookup : String → Option String) : Prop :=
  ∀ ⦃name : String⦄ ⦃α : Type⦄ ⦃view : Whole → α⦄ ⦃read : Option String → α⦄,
    Feeds name view read → view w = read (given? lookup name)

theorem flag?_cases (lookup : String → Option String) :
    (∃ value, Has lookup (.badFlag value) ∧
      flag? (given? lookup "REGISTRAR_SKIP_TLS_VALIDATION") = .error (.badFlag value)) ∨
    (∀ value, ¬ Has lookup (.badFlag value)) ∧
      flag? (given? lookup "REGISTRAR_SKIP_TLS_VALIDATION") =
        .ok (given? lookup "REGISTRAR_SKIP_TLS_VALIDATION" = some "true" ||
          given? lookup "REGISTRAR_SKIP_TLS_VALIDATION" = some "1") := by
  simp only [has_badFlag_iff]
  cases given? lookup "REGISTRAR_SKIP_TLS_VALIDATION" with
  | none => exact .inr ⟨fun value has => (nomatch has.1), rfl⟩
  | some value =>
      by_cases word : value ∈ ["true", "1", "false", "0"]
      · refine .inr ⟨fun value' has => ?_, ?_⟩
        · cases has.1
          exact has.2 word
        · simp only [List.mem_cons, List.not_mem_nil, or_false] at word
          rcases word with rfl | rfl | rfl | rfl <;> rfl
      · refine .inl ⟨value, ⟨rfl, word⟩, ?_⟩
        simp only [List.mem_cons, List.not_mem_nil, or_false, not_or] at word
        unfold flag?
        split <;> simp_all

theorem address?_cases (lookup : String → Option String) :
    (∃ value, Has lookup (.badAddress value) ∧
      address? (given? lookup "REGISTRAR_HOST_ALIAS_IP") = .error (.badAddress value)) ∨
    (∀ value, ¬ Has lookup (.badAddress value)) ∧
      address? (given? lookup "REGISTRAR_HOST_ALIAS_IP") =
        .ok ((given? lookup "REGISTRAR_HOST_ALIAS_IP").bind Address.parse?) := by
  simp only [has_badAddress_iff]
  cases given? lookup "REGISTRAR_HOST_ALIAS_IP" with
  | none => exact .inr ⟨fun value has => (nomatch has.1), rfl⟩
  | some value =>
      cases parsed : Address.parse? value with
      | none => exact .inl ⟨value, ⟨rfl, parsed⟩, by rw [address?, parsed]⟩
      | some address =>
          refine .inr ⟨fun value' has => ?_, by rw [address?, parsed, Option.bind_some, parsed]⟩
          cases has.1
          rw [parsed] at has
          cases has.2

section Order

variable {account : String} {skips : Bool} {hostAlias : Option Address}

theorem ofLookup_of_missing (missing : given? lookup "REGISTRAR_ACCOUNT_ID" = none) :
    ofLookup lookup = .error .accountMissing := by
  unfold given? at missing
  simp only [ofLookup, missing]
  rfl

theorem ofLookup_of_flag (named : given? lookup "REGISTRAR_ACCOUNT_ID" = some account)
    (flag : flag? (given? lookup "REGISTRAR_SKIP_TLS_VALIDATION") = .error fault) :
    ofLookup lookup = .error fault := by
  unfold given? at named flag
  simp only [ofLookup, named, flag]
  rfl

theorem ofLookup_of_address (named : given? lookup "REGISTRAR_ACCOUNT_ID" = some account)
    (flag : flag? (given? lookup "REGISTRAR_SKIP_TLS_VALIDATION") = .ok skips)
    (address : address? (given? lookup "REGISTRAR_HOST_ALIAS_IP") = .error fault) :
    ofLookup lookup = .error fault := by
  unfold given? at named flag address
  simp only [ofLookup, named, flag, address]
  rfl

end Order

/-- Without a fault there is a configuration, of the values that the variables feed. -/
theorem exists_ofLookup {account : String}
    (named : given? lookup "REGISTRAR_ACCOUNT_ID" = some account)
    (flag : flag? (given? lookup "REGISTRAR_SKIP_TLS_VALIDATION") =
      .ok (given? lookup "REGISTRAR_SKIP_TLS_VALIDATION" = some "true" ||
        given? lookup "REGISTRAR_SKIP_TLS_VALIDATION" = some "1"))
    (address : address? (given? lookup "REGISTRAR_HOST_ALIAS_IP") =
      .ok ((given? lookup "REGISTRAR_HOST_ALIAS_IP").bind Address.parse?)) :
    ∃ c, ofLookup lookup = .ok c ∧ c.whole.IsFed lookup := by
  unfold given? at named flag address
  simp only [ofLookup, named, flag, address]
  refine ⟨_, rfl, fun name α view read feeds => ?_⟩
  unfold given?
  cases feeds with
  | account | settingsAccount => rw [named]; rfl
  | _ => rfl

/-- What comes of the variables: their first fault, or a configuration of the values that they
feed. -/
inductive Outcome (lookup : String → Option String) : Except ConfigFault Config → Prop
  | failed {fault : ConfigFault} (first : HasFirst lookup fault) : Outcome lookup (.error fault)
  | made {c : Config} (sound : ∀ fault, ¬ Has lookup fault) (values : c.whole.IsFed lookup) :
      Outcome lookup (.ok c)

theorem outcome (lookup : String → Option String) : Outcome lookup (ofLookup lookup) := by
  cases named : given? lookup "REGISTRAR_ACCOUNT_ID" with
  | none =>
      rw [ofLookup_of_missing named]
      exact .failed ⟨.accountMissing named, fun _ _ => Nat.zero_le _⟩
  | some account =>
      have present : ¬ Has lookup .accountMissing := by simp [has_accountMissing_iff, named]
      rcases flag?_cases lookup with ⟨value, has, bad⟩ | ⟨noFlag, flag⟩
      · rw [ofLookup_of_flag named bad]
        refine .failed ⟨has, fun other has' => ?_⟩
        cases other with
        | accountMissing => exact absurd has' present
        | badFlag => exact le_rfl
        | badAddress => exact Nat.le_succ 1
      rcases address?_cases lookup with ⟨value, has, bad⟩ | ⟨noAddress, address⟩
      · rw [ofLookup_of_address named flag bad]
        refine .failed ⟨has, fun other has' => ?_⟩
        cases other with
        | accountMissing => exact absurd has' present
        | badFlag value => exact absurd has' (noFlag value)
        | badAddress => exact le_rfl
      · obtain ⟨c, made, values⟩ := exists_ofLookup named flag address
        rw [made]
        refine .made (fun fault has => ?_) values
        cases fault with
        | accountMissing => exact present has
        | badFlag value => exact noFlag value has
        | badAddress value => exact noAddress value has

end Enrollment.Config
