import Enrollment.Compatibility
import Enrollment.Proofs.Record.RoundTrip

/-!
# The table of standings

What a record is to a cluster is laid down in a table, whose rows speak of the words that stand
on the wire: a row applies when its condition holds, and the first row that applies decides.
The records that are judged hold tags in place of words, into which known words, other words
and the empty one have been sorted, and the judgement is a case analysis of them. For every
record that has been read the two come to the same.
-/

namespace Enrollment

open Json

/-- The words that a record is judged by, as they stand on the wire. -/
structure Words where
  identity : String
  install : String
  managedState : String
  state : String
  deriving DecidableEq, Repr

/-- The record is what is read from these words. -/
structure ClusterRecord.ReadFrom (r : ClusterRecord) (w : Words) : Prop where
  identity : r.identity = w.identity
  install : r.install = .ofString w.install
  managedState : r.managedState = .ofString w.managedState
  state : r.state = .ofString w.state

/-! ## The table -/

namespace Standing

/-- When a row of the table applies to a record, towards the cluster with the given identity, and
what the record is then. -/
structure Row where
  applies : String → Words → Bool
  outcome : String → Words → Standing

/-- The rows in the order in which they are tried. -/
def table : List Row := [
  { applies := fun identity w => w.identity ≠ "" ∧ w.identity ≠ identity
    outcome := fun identity w => .incompatible (.identityMismatch w.identity identity) },
  { applies := fun _ w => w.identity = "" ∧ w.install ≠ "pending"
    outcome := fun _ w => .incompatible (.missingIdentity (.ofString w.install)) },
  { applies := fun _ w => w.install = ""
    outcome := fun _ _ => .incompatible .notTracked },
  { applies := fun _ w => w.install = "installed" ∧ w.managedState ≠ "managed"
    outcome := fun _ w => .incompatible (.installedNotManaged (.ofString w.managedState)) },
  { applies := fun _ w => w.install = "installed" ∧ w.managedState = "managed"
    outcome := fun _ _ => .registered },
  { applies := fun _ w => w.install ≠ "pending"
    outcome := fun _ w => .incompatible (.unexpectedInstallState (.ofString w.install)) },
  { applies := fun _ w => w.state ≠ "pending"
    outcome := fun _ w => .incompatible (.notPending (.ofString w.state)) },
  { applies := fun _ _ => true
    outcome := fun _ _ => .promotable }]

/-- The outcome of the first row that applies. -/
def byTable (identity : String) (w : Words) : Option Standing :=
  (table.find? fun row => row.applies identity w).map fun row => row.outcome identity w

end Standing

/-! ## Words and tags -/

namespace Tag

variable {κ : Type} [Vocabulary κ] {s : String}

/-- A tag is unset when its word is empty. -/
theorem ofString_eq_unset [LawfulVocabulary κ] : (ofString s : Tag κ) = .unset ↔ s = "" := by
  have canonical := canonical_iff_isProper.mpr (isProper_unset (κ := κ))
  have empty : (ofString "" : Tag κ) = .unset := canonical
  rw [← empty, ofString_inj]

/-- A tag holds a known word when that word has been read. -/
theorem ofString_eq_known [LawfulVocabulary κ] {word : κ} :
    (ofString s : Tag κ) = .known word ↔ s = Vocabulary.spelling word := by
  have proper : (known word).IsProper := by
    intro other same
    cases same
  have canonical : ofString (Vocabulary.spelling word) = known word :=
    canonical_iff_isProper.mpr proper
  rw [← canonical, ofString_inj]

end Tag

namespace ClusterRecord

variable {r : ClusterRecord} {w : Words} {identity : String}

/-- A record that has been decoded is read from some words: those of its tags. -/
theorem exists_readFrom {bytes : Bytes} (decoded : decode bytes = .ok r) : ∃ w, r.ReadFrom w := by
  obtain ⟨rest, read⟩ := Reader.run_of_decode decoded
  have proper := isProper_of_read bytes r rest read
  refine ⟨⟨r.identity, r.install.text, r.managedState.text, r.state.text⟩, rfl, ?_, ?_, ?_⟩
  · exact (Tag.canonical_iff_isProper.mpr proper.install).symm
  · exact (Tag.canonical_iff_isProper.mpr proper.managedState).symm
  · exact (Tag.canonical_iff_isProper.mpr proper.state).symm

/-- The rows that ask for more than the identity agree with the case analysis of the tags. -/
theorem ReadFrom.standingByState_eq (h : r.ReadFrom w) (identity : String) :
    ((Standing.table.drop 2).find? fun row => row.applies identity w).map
      (fun row => row.outcome identity w) = some r.standingByState := by
  have managed : .ofString w.managedState = Tag.known ManagedWord.managed ↔
      w.managedState = "managed" := Tag.ofString_eq_known
  have pending : .ofString w.state = Tag.known StateWord.pending ↔ w.state = "pending" :=
    Tag.ofString_eq_known
  unfold standingByState
  rw [h.install, h.managedState, h.state]
  split
  · next unset =>
    have empty := Tag.ofString_eq_unset.mp unset
    simp [Standing.table, empty]
  · next known =>
    have installed : w.install = "installed" := Tag.ofString_eq_known.mp known
    by_cases word : w.managedState = "managed"
    · rw [if_pos (managed.mpr word)]
      simp [Standing.table, installed, word]
    · rw [if_neg (mt managed.mp word)]
      simp [Standing.table, installed, word]
  · next known =>
    have install : w.install = "pending" := Tag.ofString_eq_known.mp known
    by_cases word : w.state = "pending"
    · rw [if_pos (pending.mpr word)]
      simp [Standing.table, install, word]
    · rw [if_neg (mt pending.mp word)]
      simp [Standing.table, install, word]
  · next s other =>
    have nonempty : w.install ≠ "" := by
      intro empty
      cases other.symm.trans (Tag.ofString_eq_unset.mpr empty)
    have unknown (word : InstallWord) : w.install ≠ Vocabulary.spelling word := by
      intro spelled
      cases other.symm.trans (Tag.ofString_eq_known.mpr spelled)
    have installed : w.install ≠ "installed" := unknown .installed
    have pending : w.install ≠ "pending" := unknown .pending
    simp [Standing.table, nonempty, installed, pending, other]

/-- A record has the standing that the table gives to the words it is read from. -/
theorem ReadFrom.byTable_eq (h : r.ReadFrom w) (identity : String) :
    Standing.byTable identity w = some (r.standing identity) := by
  have pending : .ofString w.install = Tag.known InstallWord.pending ↔ w.install = "pending" :=
    Tag.ofString_eq_known
  have rest := h.standingByState_eq identity
  unfold standing
  rw [h.identity, h.install]
  by_cases empty : w.identity = ""
  · rw [if_pos (String.isEmpty_iff.mpr empty)]
    by_cases word : w.install = "pending"
    · rw [if_pos (pending.mpr word), ← rest]
      simp [Standing.byTable, Standing.table, empty, word]
    · rw [if_neg (mt pending.mp word)]
      simp [Standing.byTable, Standing.table, empty, word]
  · rw [if_neg (mt String.isEmpty_iff.mp empty)]
    by_cases same : w.identity = identity
    · rw [if_pos same, ← rest]
      subst same
      simp [Standing.byTable, Standing.table, empty]
    · rw [if_neg same]
      simp [Standing.byTable, Standing.table, empty, same]

theorem standingByState_eq_promotable :
    r.standingByState = .promotable ↔
      r.install = .known .pending ∧ r.state = .known .pending := by
  unfold standingByState
  cases install : r.install with
  | unset | other => simp
  | known word =>
      cases word with
      | installed =>
          dsimp only
          split <;> simp
      | pending =>
          dsimp only
          split <;> simp [*]

/-- Only a pending record that carries no other identity can be promoted. -/
theorem standing_eq_promotable :
    r.standing identity = .promotable ↔ (r.identity = "" ∨ r.identity = identity) ∧
      r.install = .known .pending ∧ r.state = .known .pending := by
  unfold standing
  by_cases empty : r.identity = ""
  · rw [if_pos (String.isEmpty_iff.mpr empty)]
    by_cases pending : r.install = .known .pending
    · rw [if_pos pending, standingByState_eq_promotable]
      simp [empty]
    · rw [if_neg pending]
      simp [pending]
  · rw [if_neg (mt String.isEmpty_iff.mp empty)]
    by_cases same : r.identity = identity
    · rw [if_pos same, standingByState_eq_promotable]
      simp [same]
    · rw [if_neg same]
      simp [empty, same]

theorem ReadFrom.promotable_iff (h : r.ReadFrom w) :
    r.standing identity = .promotable ↔
      (w.identity = "" ∨ w.identity = identity) ∧ w.install = "pending" ∧ w.state = "pending" := by
  rw [standing_eq_promotable, h.identity, h.install, h.state, Tag.ofString_eq_known,
    Tag.ofString_eq_known]
  rfl

theorem ReadFrom.registered_iff (h : r.ReadFrom w) :
    r.standing identity = .registered ↔
      w.identity ≠ "" ∧ w.identity = identity ∧ w.install = "installed" ∧
        w.managedState = "managed" := by
  rw [standing_eq_registered, h.identity, h.install, h.managedState, Tag.ofString_eq_known,
    Tag.ofString_eq_known]
  rfl

/-- A record that is registered for one cluster is mismatched for every other. -/
theorem standing_of_registered_elsewhere {other : String} (different : other ≠ identity)
    (registered : r.standing identity = .registered) :
    r.standing other = .incompatible (.identityMismatch r.identity other) := by
  obtain ⟨nonempty, same, -⟩ := standing_eq_registered.mp registered
  have mismatched : r.identity ≠ other := fun theirs => different (theirs.symm.trans same)
  rw [standing, if_neg (mt String.isEmpty_iff.mp nonempty), if_neg mismatched]

/-- The standing of a record that has been decoded follows the table. The record is read from the
words on the wire, and towards every identity, the empty one included, it has the standing that
the first row gives that applies to these words. So it can be promoted just when the words carry no
identity or the cluster's, and both `connectorInstall` and `state` are pending; and it is
registered just when they carry the identity of the cluster, installed and managed. A record that
is registered for one cluster is mismatched for every other. -/
theorem standing_follows_table (bytes : Bytes) (r : ClusterRecord)
    (decoded : decode bytes = .ok r) :
    ∃ w : Words, r.ReadFrom w ∧ ∀ identity,
      Standing.byTable identity w = some (r.standing identity) ∧
      (r.standing identity = .promotable ↔
        (w.identity = "" ∨ w.identity = identity) ∧ w.install = "pending" ∧
          w.state = "pending") ∧
      (r.standing identity = .registered ↔
        w.identity ≠ "" ∧ w.identity = identity ∧ w.install = "installed" ∧
          w.managedState = "managed") ∧
      ∀ other, other ≠ identity → r.standing identity = .registered →
        r.standing other = .incompatible (.identityMismatch w.identity other) := by
  obtain ⟨w, read⟩ := exists_readFrom decoded
  refine ⟨w, read, fun identity => ⟨read.byTable_eq identity, read.promotable_iff,
    read.registered_iff, fun other different registered => ?_⟩⟩
  rw [← read.identity]
  exact standing_of_registered_elsewhere different registered

/-- A record with a state of its own is not ready for any cluster, not even for one without an
identity. -/
theorem running_record_follows_table :
    let bytes := Utf8.encode
      r#"{"apiServiceID":"","connectorInstall":"pending","state":"running"}"#.toList
    let r : ClusterRecord := { install := .known .pending, state := .other "running" }
    decode bytes = .ok r ∧ ∃ w : Words, r.ReadFrom w ∧ ∀ identity,
      Standing.byTable identity w = some (r.standing identity) ∧
      (r.standing identity = .promotable ↔
        (w.identity = "" ∨ w.identity = identity) ∧ w.install = "pending" ∧
          w.state = "pending") ∧
      (r.standing identity = .registered ↔
        w.identity ≠ "" ∧ w.identity = identity ∧ w.install = "installed" ∧
          w.managedState = "managed") ∧
      ∀ other, other ≠ identity → r.standing identity = .registered →
        r.standing other = .incompatible (.identityMismatch w.identity other) := by
  intro bytes r
  have decoded : decode bytes = .ok r := by decide +kernel
  exact ⟨decoded, standing_follows_table bytes r decoded⟩

end ClusterRecord

end Enrollment
