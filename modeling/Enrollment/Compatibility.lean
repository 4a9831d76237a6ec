import Enrollment.Record.Cluster

/-!
# Whether a record may stand for this cluster

A record that is found in the inventory is judged against the identity of this cluster. It
may already be registered, it may be ready to be promoted, or it must not be touched. The
rules are tried in order, and the first that applies decides.
-/

namespace Enrollment

/-- Why a record must not be touched. -/
inductive Incompatibility where
  | identityMismatch (recorded expected : String)
  | missingIdentity (install : ConnectorInstall)
  | notTracked
  | installedNotManaged (managed : ManagedState)
  | unexpectedInstallState (install : ConnectorInstall)
  | notPending (state : ClusterState)
  deriving DecidableEq, Repr

def Incompatibility.message : Incompatibility → String
  | identityMismatch recorded expected =>
    s!"record apiServiceID '{recorded}' does not match this cluster's apiServiceID '{expected}'"
  | missingIdentity install =>
    s!"record has no apiServiceID and connectorInstall is '{install.text}' rather than pending"
  | notTracked => "record was never installed by a connector"
  | installedNotManaged managed =>
    s!"record is installed but managedState is '{managed.text}'"
  | unexpectedInstallState install =>
    s!"record has unexpected connectorInstall '{install.text}'"
  | notPending state => s!"record state is '{state.text}' rather than pending"

/-- What a record is to this cluster. -/
inductive Standing where
  | registered
  | promotable
  | incompatible (why : Incompatibility)
  deriving DecidableEq, Repr

namespace ClusterRecord

/-- The standing of a record whose identity raises no objection. -/
def standingByState (r : ClusterRecord) : Standing :=
  match r.install with
  | .unset => .incompatible .notTracked
  | .known .installed =>
    if r.managedState = .known .managed then .registered
    else .incompatible (.installedNotManaged r.managedState)
  | .known .pending =>
    if r.state = .known .pending then .promotable else .incompatible (.notPending r.state)
  | .other s => .incompatible (.unexpectedInstallState (.other s))

/-- The standing of a record towards the cluster with the given identity. A record without
an identity can be claimed only while it is pending. -/
def standing (identity : String) (r : ClusterRecord) : Standing :=
  if r.identity.isEmpty then
    if r.install = .known .pending then r.standingByState
    else .incompatible (.missingIdentity r.install)
  else if r.identity = identity then r.standingByState
  else .incompatible (.identityMismatch r.identity identity)

theorem standingByState_eq_registered {r : ClusterRecord} :
    r.standingByState = .registered ↔
      r.install = .known .installed ∧ r.managedState = .known .managed := by
  constructor
  · intro state
    unfold standingByState at state
    split at state
    · cases state
    · next installed =>
      split at state
      · next managed => exact ⟨installed, managed⟩
      · cases state
    · split at state <;> cases state
    · cases state
  · rintro ⟨installed, managed⟩
    rw [standingByState, installed, managed]
    rfl

/-- Only a record that carries the identity is registered. -/
theorem standing_eq_registered {identity : String} {r : ClusterRecord} :
    r.standing identity = .registered ↔ r.identity ≠ "" ∧ r.identity = identity ∧
      r.install = .known .installed ∧ r.managedState = .known .managed := by
  have nonempty : r.identity.isEmpty = true ↔ r.identity = "" := String.isEmpty_iff
  unfold standing
  by_cases empty : r.identity = ""
  · rw [if_pos (nonempty.mpr empty)]
    by_cases pending : r.install = .known .pending
    · rw [if_pos pending, standingByState_eq_registered]
      simp [empty, pending]
    · rw [if_neg pending]
      simp [empty]
  · rw [if_neg (mt nonempty.mp empty)]
    by_cases same : r.identity = identity
    · rw [if_pos same, standingByState_eq_registered]
      exact ⟨fun state => ⟨empty, same, state⟩, fun all => all.2.2⟩
    · rw [if_neg same]
      simp [same]

end ClusterRecord

end Enrollment
