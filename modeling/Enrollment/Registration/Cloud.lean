import Enrollment.Registration.Flow

/-!
# Resolving the cloud

The cloud that a cluster is registered under is the configured one, which has to exist, or
else the private cloud of the account, which is created if there is none.
-/

namespace Enrollment.Registration

/-- What is configured; an empty text counts as nothing. -/
def configuredId? (id : Option String) : Option String := id.filter (! ·.isEmpty)

/-- The private cloud that stands for all others in a listing: the first with an id. -/
def privateCloud? (clouds : List CloudRecord) : Option CloudRecord :=
  clouds.find? fun cloud => cloud.isPrivate && cloud.hasId

/-- The private cloud of the account, if there is one. -/
def findPrivateCloud (scope : Scope) : Procedure (Option CloudRecord) := do
  return privateCloud? (← Procedure.call scope .listClouds)

/-- The id of the private cloud, which is created if there is none. -/
def resolvePrivateCloud (scope : Scope) : Procedure String := do
  match ← findPrivateCloud scope with
  | some cloud => return cloud.id.getD ""
  | none =>
    let created ← Procedure.call scope (.createCloud .privateCloud)
    match configuredId? created.id with
    | some id => return id
    | none => throw (.refused .createdCloudWithoutId)

/-- The id of the cloud to register under. -/
def resolveCloud (scope : Scope) (configured : Option String) : Procedure String := do
  match configuredId? configured with
  | some id =>
    let _ ← Procedure.callOr (.cloud id) scope (.getCloud id)
    return id
  | none => resolvePrivateCloud scope

end Enrollment.Registration
