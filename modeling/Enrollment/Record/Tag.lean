/-!
# Tags

A state field of a record holds a word. The words that mean something form a vocabulary;
the empty word says that nothing has been set, and every other word is kept as it is, so
that a record can be written back unchanged.

A tag is canonical when no known word hides in `Tag.other`. `Tag.ofString` yields canonical
tags only, and on those it undoes `Tag.text`.
-/

namespace Enrollment

/-- The words that a state field knows. -/
class Vocabulary (κ : Type) where
  words : List κ
  spelling : κ → String

/-- The content of a state field. -/
inductive Tag (κ : Type) where
  | unset
  | known (word : κ)
  | other (s : String)
  deriving DecidableEq, Repr

namespace Tag

variable {κ : Type}

instance : Inhabited (Tag κ) := ⟨unset⟩

/-- Whether nothing has been set. -/
def isUnset : Tag κ → Bool
  | unset => true
  | _ => false

@[simp] theorem isUnset_unset : (unset : Tag κ).isUnset = true := rfl

@[simp] theorem isUnset_known (w : κ) : (known w).isUnset = false := rfl

@[simp] theorem isUnset_other (s : String) : (other s : Tag κ).isUnset = false := rfl

variable [Vocabulary κ]

def text : Tag κ → String
  | unset => ""
  | known word => Vocabulary.spelling word
  | other s => s

/-- The known word with this spelling. -/
def known? (s : String) : Option κ :=
  (Vocabulary.words (κ := κ)).find? (Vocabulary.spelling · = s)

def ofString (s : String) : Tag κ :=
  match known? s with
  | some word => known word
  | none => if s.isEmpty then unset else other s

/-- No other tag is written the same way. -/
def Canonical (t : Tag κ) : Prop := ofString t.text = t

theorem text_ofString (s : String) : (ofString s : Tag κ).text = s := by
  unfold ofString
  split
  · next word h =>
    rw [known?] at h
    have hit := List.find?_some h
    exact of_decide_eq_true hit
  · split
    · next h => exact (String.isEmpty_iff.1 h).symm
    · rfl

theorem canonical_ofString (s : String) : (ofString s : Tag κ).Canonical := by
  rw [Canonical, text_ofString]

theorem ofString_inj {a b : String} : (ofString a : Tag κ) = ofString b ↔ a = b := by
  constructor
  · intro h
    rw [← text_ofString (κ := κ) a, h, text_ofString]
  · rintro rfl
    rfl

end Tag

/-! ## The vocabularies of the state fields -/

/-- The provider of a cloud. -/
inductive CloudWord where
  | privateCloud
  deriving DecidableEq, Repr

instance : Vocabulary CloudWord where
  words := [.privateCloud]
  spelling
    | .privateCloud => "private"

/-- How far a connector has tracked a cluster. Records without this word were made before
there were connectors. -/
inductive InstallWord where
  | pending
  | installed
  deriving DecidableEq, Repr

instance : Vocabulary InstallWord where
  words := [.pending, .installed]
  spelling
    | .pending => "pending"
    | .installed => "installed"

/-- The life of a cluster record. -/
inductive StateWord where
  | pending
  deriving DecidableEq, Repr

instance : Vocabulary StateWord where
  words := [.pending]
  spelling
    | .pending => "pending"

/-- Whether a cluster is managed. -/
inductive ManagedWord where
  | managed
  | managing
  | unmanaged
  deriving DecidableEq, Repr

instance : Vocabulary ManagedWord where
  words := [.managed, .managing, .unmanaged]
  spelling
    | .managed => "managed"
    | .managing => "managing"
    | .unmanaged => "unmanaged"

abbrev CloudKind := Tag CloudWord
abbrev ConnectorInstall := Tag InstallWord
abbrev ClusterState := Tag StateWord
abbrev ManagedState := Tag ManagedWord

end Enrollment
