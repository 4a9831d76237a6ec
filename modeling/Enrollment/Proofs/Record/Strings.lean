import Enrollment.Proofs.Record.Standing

/-!
# Tags stand for strings

A decision compares tags, while what is exchanged are strings. It makes no difference: a tag that
is made from a string is printed as this very string, so that two tags are equal when the strings
are that they are made from. The converse has exceptions. A tag of another word that holds a word
of its vocabulary, or none at all, is printed like a tag that it differs from; no string makes one.
-/

namespace Enrollment

namespace Tag

variable {κ : Type}

theorem isUnset_iff {t : Tag κ} : t.isUnset = true ↔ t = .unset := by
  cases t <;> simp

variable [Vocabulary κ]

/-- A tag of another word hides nothing when it holds neither the empty word nor a known one. -/
theorem isProper_iff {t : Tag κ} :
    t.IsProper ↔ t ≠ .other "" ∧ ∀ word : κ, t ≠ .other (Vocabulary.spelling word) := by
  constructor
  · intro proper
    refine ⟨fun empty => (proper "" empty).1 rfl, ?_⟩
    intro word known
    exact (proper _ known).2 word rfl
  · rintro ⟨nonempty, unknown⟩ s rfl
    refine ⟨fun empty => nonempty (congrArg other empty), ?_⟩
    intro word spelled
    exact unknown word (congrArg other spelled.symm)

variable (κ) in
/-- Tags of this vocabulary stand for strings, and a string for one of them. -/
structure StandForStrings : Prop where
  printed : ∀ a : String, (ofString a : Tag κ).text = a
  distinct : ∀ a b : String, (ofString a : Tag κ) = ofString b ↔ a = b
  unset : ∀ a : String, (ofString a : Tag κ).isUnset = true ↔ a = ""
  restored : ∀ t : Tag κ, t = ofString t.text ↔
    ¬ (t = .other "" ∨ ∃ word : κ, t = .other (Vocabulary.spelling word))
  unmade : ∀ a : String, ¬ ((ofString a : Tag κ) = .other "" ∨
    ∃ word : κ, (ofString a : Tag κ) = .other (Vocabulary.spelling word))

theorem standForStrings [LawfulVocabulary κ] : StandForStrings κ where
  printed := text_ofString
  distinct _ _ := ofString_inj
  unset a := by rw [isUnset_iff, ofString_eq_unset]
  restored t := by
    have proper : t = ofString t.text ↔ t.IsProper := by
      rw [← canonical_iff_isProper, Canonical, eq_comm]
    rw [proper, isProper_iff, not_or, not_exists]
  unmade a := by
    have proper := isProper_iff.mp (isProper_ofString (κ := κ) a)
    rw [not_or, not_exists]
    exact proper

end Tag

/-- The four state fields of the records keep every string that they are made from: it is what they
print, and what they are told apart by; they are unset when it is empty. A state is made again from
what it prints unless it is of another word and holds the empty string or a known word, and such a
state is made from no string. -/
theorem states_keep_strings :
    Tag.StandForStrings CloudWord ∧ Tag.StandForStrings InstallWord ∧
    Tag.StandForStrings StateWord ∧ Tag.StandForStrings ManagedWord :=
  ⟨Tag.standForStrings, Tag.standForStrings, Tag.standForStrings, Tag.standForStrings⟩

end Enrollment
