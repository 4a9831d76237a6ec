import Enrollment.Record.Cluster

/-!
# Listings

The answer to a question for all records of a kind: an object whose only field holds them.
-/

namespace Enrollment

/-- The records of a listing. -/
structure Listing (ρ : Type) where
  items : List ρ := []
  deriving DecidableEq, Repr, Inhabited

namespace Listing

variable {ρ : Type}

/-- A listing is read like a record with one field; its items are written even when there
are none. -/
def layout (item : Json.Layout ρ) : Json.Layout (Listing ρ) where
  title := "struct ItemList"
  blank := {}
  fields := [{
    name := "items"
    reader := (Json.Reader.list item.reader).map fun x r => { r with items := x }
    write := fun r => some (Json.Field.bracketed (r.items.map item.write)) }]

def clouds : Json.Layout (Listing CloudRecord) := layout CloudRecord.layout

def clusters : Json.Layout (Listing ClusterRecord) := layout ClusterRecord.layout

end Listing

end Enrollment
