import Enrollment.Proofs.Json.Restores
import Enrollment.Record.Listing

/-!
# Records survive being written and read

Every record of the inventory is written to bytes and read back as it was, as long as its tags
say what they mean: a tag of another word must not hold a word of its vocabulary, nor the empty
one, because such a tag is written like a known or an unset one. Records that have been read are
of this kind, so what has been read once is not changed by writing it and reading it again.
-/

namespace Enrollment

open Json

/-! ## Tags -/

/-- A vocabulary whose words have different spellings, none of them empty. -/
class LawfulVocabulary (κ : Type) [Vocabulary κ] : Prop where
  known_spelling : ∀ word : κ, Tag.known? (Vocabulary.spelling word) = some word
  spelling_ne_empty : ∀ word : κ, Vocabulary.spelling word ≠ ""

instance : LawfulVocabulary CloudWord where
  known_spelling | .privateCloud => by decide
  spelling_ne_empty | .privateCloud => by decide

instance : LawfulVocabulary InstallWord where
  known_spelling | .pending | .installed => by decide
  spelling_ne_empty | .pending | .installed => by decide

instance : LawfulVocabulary StateWord where
  known_spelling | .pending => by decide
  spelling_ne_empty | .pending => by decide

instance : LawfulVocabulary ManagedWord where
  known_spelling | .managed | .managing | .unmanaged => by decide
  spelling_ne_empty | .managed | .managing | .unmanaged => by decide

namespace Tag

variable {κ : Type} [Vocabulary κ]

/-- A tag of another word holds neither the empty word nor a known one. -/
def IsProper (t : Tag κ) : Prop :=
  ∀ s, t = .other s → s ≠ "" ∧ ∀ word : κ, Vocabulary.spelling word ≠ s

theorem isProper_unset : (unset : Tag κ).IsProper := by
  intro s same
  cases same

theorem known?_eq_none {s : String} (unknown : ∀ word : κ, Vocabulary.spelling word ≠ s) :
    (known? s : Option κ) = none := by
  rw [known?, List.find?_eq_none]
  intro word _ same
  exact unknown word (of_decide_eq_true same)

variable [LawfulVocabulary κ]

theorem isProper_ofString (s : String) : (ofString s : Tag κ).IsProper := by
  intro other same
  unfold ofString at same
  split at same
  · cases same
  · next unknown =>
    split at same
    · cases same
    · next nonempty =>
      cases same
      refine ⟨fun empty => nonempty (String.isEmpty_iff.mpr empty), ?_⟩
      intro word spelled
      rw [← spelled, LawfulVocabulary.known_spelling] at unknown
      cases unknown

/-- The proper tags are the canonical ones. -/
theorem canonical_iff_isProper {t : Tag κ} : t.Canonical ↔ t.IsProper := by
  constructor
  · intro canonical
    have proper := isProper_ofString (κ := κ) t.text
    rwa [canonical] at proper
  · intro proper
    cases t with
    | unset =>
        have unknown := known?_eq_none (κ := κ) LawfulVocabulary.spelling_ne_empty
        simp [Canonical, text, ofString, unknown]
    | known word => simp [Canonical, text, ofString, LawfulVocabulary.known_spelling]
    | other s =>
        obtain ⟨nonempty, unknown⟩ := proper s rfl
        simp [Canonical, text, ofString, known?_eq_none unknown, nonempty]

end Tag

variable {ρ κ : Type} [Vocabulary κ] [LawfulVocabulary κ] {r x : ρ}

theorem Json.Field.restores_tag (name : String) (get : ρ → Tag κ) (set : Tag κ → ρ → ρ)
    (blank : set .unset x = x) (proper : (get r).IsProper) :
    (Field.tag name get set).Restores r x (set (get r) x) := by
  by_cases missing : (get r).isUnset = true
  · have omitted : (Field.tag name get set).Restores r x x := .omitted (if_pos missing)
    have unset : get r = .unset := by
      cases found : get r with
      | unset => rfl
      | known | other => simp [found] at missing
    rw [unset, blank]
    exact omitted
  · have text := (reads_text (get r).text).map fun s => set (.ofString s)
    rw [Tag.canonical_iff_isProper.mpr proper] at text
    exact .written (if_neg missing) text

/-! ## Records -/

/-- Every tag of the record is proper. -/
def CloudRecord.IsProper (r : CloudRecord) : Prop := r.kind.IsProper

/-- Every tag of the record is proper. -/
structure ClusterRecord.IsProper (r : ClusterRecord) : Prop where
  state : r.state.IsProper
  managedState : r.managedState.IsProper
  desiredState : r.desiredState.IsProper
  install : r.install.IsProper

/-- Every record of the listing is proper. -/
def Listing.IsProper (proper : ρ → Prop) (listing : Listing ρ) : Prop :=
  ∀ r ∈ listing.items, proper r

theorem CloudRecord.reads_write (r : CloudRecord) (proper : r.IsProper) :
    Reads layout.reader (layout.write r) r := by
  refine Layout.reads_write (by decide) ?_
  refine .cons (Field.restores_optionalText _ _ _ rfl) ?_
  iterate 3 refine .cons (Field.restores_text _ _ _ rfl) ?_
  exact .cons (Field.restores_tag _ _ _ rfl proper) .nil

theorem ClusterRecord.reads_write (r : ClusterRecord) (proper : r.IsProper) :
    Reads layout.reader (layout.write r) r := by
  refine Layout.reads_write (by decide) ?_
  refine .cons (Field.restores_optionalText _ _ _ rfl) ?_
  iterate 3 refine .cons (Field.restores_text _ _ _ rfl) ?_
  refine .cons (Field.restores_tag _ _ _ rfl proper.state) ?_
  refine .cons (Field.restores_tag _ _ _ rfl proper.managedState) ?_
  refine .cons (Field.restores_tag _ _ _ rfl proper.desiredState) ?_
  iterate 2 refine .cons (Field.restores_text _ _ _ rfl) ?_
  refine .cons (Field.restores_tag _ _ _ rfl proper.install) ?_
  iterate 6 refine .cons (Field.restores_text _ _ _ rfl) ?_
  exact .cons (Field.restores_texts _ _ _ rfl) .nil

theorem Listing.reads_write {item : Layout ρ} {proper : ρ → Prop}
    (items : ∀ r, proper r → Reads item.reader (item.write r) r) (listing : Listing ρ)
    (h : listing.IsProper proper) :
    Reads (layout item).reader ((layout item).write listing) listing := by
  have list := Reads.list fun r inside => items r (h r inside)
  have value := list.map fun as (r : Listing ρ) => { r with items := as }
  exact Layout.reads_write (List.nodup_singleton _) (.cons (.written rfl value) .nil)

theorem CloudRecord.isProper_of_read (s : Bytes) (r : CloudRecord) (rest : Bytes)
    (h : layout.read s = .ok (r, rest)) : r.IsProper := by
  have keeps : ∀ f ∈ layout.fields, f.Keeps IsProper := by
    simp only [layout, List.forall_mem_cons, List.not_mem_nil, false_implies, implies_true,
      and_true]
    refine ⟨?_, ?_, ?_, ?_, Field.keeps_map fun _ _ _ => Tag.isProper_ofString _⟩
    all_goals exact Field.keeps_map fun _ _ kept => kept
  exact Layout.read_keeps keeps Tag.isProper_unset h

theorem ClusterRecord.isProper_of_read (s : Bytes) (r : ClusterRecord) (rest : Bytes)
    (h : layout.read s = .ok (r, rest)) : r.IsProper := by
  have keeps : ∀ f ∈ layout.fields, f.Keeps IsProper := by
    simp only [layout, List.forall_mem_cons, List.not_mem_nil, false_implies, implies_true,
      and_true]
    refine ⟨?_, ?_, ?_, ?_, ?state, ?managed, ?desired, ?_, ?_, ?install, ?_, ?_, ?_, ?_, ?_, ?_,
      ?_⟩
    case state =>
      exact Field.keeps_map fun _ _ ⟨_, m, d, i⟩ => ⟨Tag.isProper_ofString _, m, d, i⟩
    case managed =>
      exact Field.keeps_map fun _ _ ⟨s, _, d, i⟩ => ⟨s, Tag.isProper_ofString _, d, i⟩
    case desired =>
      exact Field.keeps_map fun _ _ ⟨s, m, _, i⟩ => ⟨s, m, Tag.isProper_ofString _, i⟩
    case install =>
      exact Field.keeps_map fun _ _ ⟨s, m, d, _⟩ => ⟨s, m, d, Tag.isProper_ofString _⟩
    all_goals exact Field.keeps_map fun _ _ ⟨s, m, d, i⟩ => ⟨s, m, d, i⟩
  have unset {κ : Type} [Vocabulary κ] : (Tag.unset : Tag κ).IsProper := Tag.isProper_unset
  exact Layout.read_keeps keeps ⟨unset, unset, unset, unset⟩ h

theorem Listing.isProper_of_read {item : Layout ρ} {proper : ρ → Prop}
    (sound : ∀ s r rest, item.read s = .ok (r, rest) → proper r) (s : Bytes)
    (listing : Listing ρ) (rest : Bytes) (h : (layout item).read s = .ok (listing, rest)) :
    listing.IsProper proper := by
  have keeps : ∀ f ∈ (layout item).fields, f.Keeps (IsProper proper) := by
    rw [layout, List.forall_mem_singleton]
    exact Field.keeps_map fun read _ _ => forall_mem_of_readList sound read
  exact Layout.read_keeps keeps (List.forall_mem_nil _) h

/-! ## Reading what has been written -/

/-- Reading undoes writing: every proper record is read back from the bytes that it is written
to, and every record that can be read at all is proper, so that it is read back as well. -/
structure Json.Layout.Faithful (l : Layout ρ) (proper : ρ → Prop) : Prop where
  restores : ∀ r, proper r → l.decode (Utf8.encode (l.encode r).toList) = .ok r
  sound : ∀ bytes r, l.decode bytes = .ok r → proper r
  again : ∀ bytes r, l.decode bytes = .ok r → l.decode (Utf8.encode (l.encode r).toList) = .ok r

theorem Json.Reader.run_of_decode {x : Reader ρ} {s : Bytes} (h : x.decode s = .ok r) :
    ∃ rest, x.run s = .ok (r, rest) := by
  unfold Reader.decode at h
  split at h
  · cases h
  · next rest read =>
    split at h
    · cases h
      exact ⟨rest, read⟩
    · cases h

theorem Json.Layout.faithful {l : Layout ρ} {proper : ρ → Prop}
    (reads : ∀ r, proper r → Reads l.reader (l.write r) r)
    (sound : ∀ s r rest, l.read s = .ok (r, rest) → proper r) : l.Faithful proper := by
  have restores (r : ρ) (h : proper r) :
      l.decode (Utf8.encode (l.encode r).toList) = .ok r := by
    rw [Layout.encode, String.toList_ofList]
    exact (reads r h).decode
  have proper_of_decode (bytes : Bytes) (r : ρ) (h : l.decode bytes = .ok r) : proper r := by
    obtain ⟨rest, read⟩ := Reader.run_of_decode h
    exact sound bytes r rest read
  exact ⟨restores, proper_of_decode, fun bytes r h => restores r (proper_of_decode bytes r h)⟩

/-- Clouds, clusters and listings of them survive being written and read, whatever texts, ids and
capabilities they have, if their tags are proper; and whatever can be read is of this kind. -/
theorem records_round_trip :
    CloudRecord.layout.Faithful CloudRecord.IsProper ∧
    ClusterRecord.layout.Faithful ClusterRecord.IsProper ∧
    Listing.clouds.Faithful (Listing.IsProper CloudRecord.IsProper) ∧
    Listing.clusters.Faithful (Listing.IsProper ClusterRecord.IsProper) := by
  refine ⟨?_, ?_, ?_, ?_⟩
  · exact Layout.faithful CloudRecord.reads_write CloudRecord.isProper_of_read
  · exact Layout.faithful ClusterRecord.reads_write ClusterRecord.isProper_of_read
  · exact Layout.faithful (Listing.reads_write CloudRecord.reads_write)
      (Listing.isProper_of_read CloudRecord.isProper_of_read)
  · exact Layout.faithful (Listing.reads_write ClusterRecord.reads_write)
      (Listing.isProper_of_read ClusterRecord.isProper_of_read)

end Enrollment
