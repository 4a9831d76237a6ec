import Enrollment.Http.Status

/-!
# Diagnostics

What an operator is told about a request that did not go well: which operation failed to do
what, where, and what is known about the answer. A diagnostic is copied verbatim into a
status field, so its text has one fixed form.
-/

namespace Enrollment

structure Diagnostic where
  operation : String
  action : String
  url : String
  status : Option Http.Status := none
  error : Option String := none
  body : Option String := none
  deriving DecidableEq, Repr

namespace Diagnostic

/-- The status has a place of its own even when there is none; an empty body is not shown. -/
def text (d : Diagnostic) : String :=
  let status := (d.status.map Http.Status.text).getD ""
  let error := (d.error.map (": " ++ ·)).getD ""
  let body := ((d.body.filter (! ·.isEmpty)).map ("; Response Body: " ++ ·)).getD ""
  s!"{d.operation}: Failed to {d.action} to {d.url} with status {status}{error}{body}"

end Diagnostic

end Enrollment
