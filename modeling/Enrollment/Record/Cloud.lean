import Enrollment.Json.Layout
import Enrollment.Record.Tag

/-!
# Cloud records

A cloud groups the clusters of a tenant. The one that clusters are registered under unless
another is configured is the private cloud: it has the private kind and a fixed name.
-/

namespace Enrollment

structure CloudRecord where
  id : Option String := none
  typeTag : String := ""
  version : String := ""
  name : String := ""
  kind : CloudKind := .unset
  deriving DecidableEq, Repr, Inhabited

/-- A tag that is left out when it is unset. -/
def Json.Field.tag {ρ κ : Type} [Vocabulary κ] (name : String) (get : ρ → Tag κ)
    (set : Tag κ → ρ → ρ) : Json.Field ρ where
  name := name
  reader := Json.Reader.text.map fun s => set (.ofString s)
  write r := if (get r).isUnset then none else some (Json.quote (get r).text)

namespace CloudRecord

def layout : Json.Layout CloudRecord where
  title := "struct CloudRecord"
  blank := {}
  fields := [
    .optionalText "id" id fun x r => { r with id := x },
    .text "type" typeTag fun x r => { r with typeTag := x },
    .text "version" version fun x r => { r with version := x },
    .text "name" name fun x r => { r with name := x },
    .tag "cloudType" kind fun x r => { r with kind := x }]

def encode (r : CloudRecord) : String := layout.encode r

def decode (s : List UInt8) : Except Json.Fault CloudRecord := layout.decode s

def privateName : String := "private"

/-- What the private cloud is created from. -/
def privateCloud : CloudRecord where
  typeTag := "application/astra-cloud"
  version := "1.1"
  name := privateName
  kind := .known .privateCloud

/-- Whether this is a private cloud, by its kind and its name. -/
def isPrivate (r : CloudRecord) : Bool := r.kind = .known .privateCloud && r.name = privateName

/-- Whether there is an id and it is not empty. -/
def hasId (r : CloudRecord) : Bool := r.id.any (! ·.isEmpty)

@[simp] theorem isPrivate_privateCloud : privateCloud.isPrivate = true := by decide

end CloudRecord

end Enrollment
