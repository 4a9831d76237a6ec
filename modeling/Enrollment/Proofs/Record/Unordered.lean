import Enrollment.Proofs.Json.Unordered
import Enrollment.Record.Listing

/-!
# Records are decoded in any order of their members

A newer server may add members to its records and may write them in another order. Neither
changes what is decoded, of records and of listings: not at the top of a listing, and not inside
its records. The readers of all fields know where their values end, and no two fields touch the
same part of a record.
-/

namespace Enrollment

open Json

variable {ρ κ : Type} [Vocabulary κ]

/-! ## Fields -/

theorem Json.Field.definite_text (name : String) (get : ρ → String) (set : String → ρ → ρ) :
    (text name get set).reader.Definite := Reader.definite_text.map set

theorem Json.Field.definite_optionalText (name : String) (get : ρ → Option String)
    (set : Option String → ρ → ρ) : (optionalText name get set).reader.Definite :=
  Reader.definite_optionalText.map set

theorem Json.Field.definite_texts (name : String) (get : ρ → List String)
    (set : List String → ρ → ρ) : (texts name get set).reader.Definite :=
  Reader.definite_text.list.map set

theorem Json.Field.definite_tag (name : String) (get : ρ → Tag κ) (set : Tag κ → ρ → ρ) :
    (tag name get set).reader.Definite := Reader.definite_text.map fun s => set (.ofString s)

/-! ## Records -/

theorem CloudRecord.definite : layout.Definite := by
  simp only [Layout.Definite, layout, List.forall_mem_cons, List.not_mem_nil, false_implies,
    implies_true, and_true]
  refine ⟨Field.definite_optionalText _ _ _, ?_, ?_, ?_, Field.definite_tag _ _ _⟩
  all_goals exact Field.definite_text _ _ _

theorem CloudRecord.independent : layout.fields.Pairwise Field.Independent := by
  simp only [layout, List.pairwise_cons, List.forall_mem_cons, List.not_mem_nil, false_implies,
    implies_true, and_true, List.Pairwise.nil]
  repeat' apply And.intro
  all_goals exact Field.independent_map fun _ _ _ => rfl

theorem ClusterRecord.definite : layout.Definite := by
  simp only [Layout.Definite, layout, List.forall_mem_cons, List.not_mem_nil, false_implies,
    implies_true, and_true]
  refine ⟨Field.definite_optionalText _ _ _, ?_, ?_, ?_, ?_, ?_, ?_, ?_, ?_, ?_, ?_, ?_, ?_, ?_,
    ?_, ?_, Field.definite_texts _ _ _⟩
  all_goals first | exact Field.definite_text _ _ _ | exact Field.definite_tag _ _ _

theorem ClusterRecord.independent : layout.fields.Pairwise Field.Independent := by
  simp only [layout, List.pairwise_cons, List.forall_mem_cons, List.not_mem_nil, false_implies,
    implies_true, and_true, List.Pairwise.nil]
  repeat' apply And.intro
  all_goals exact Field.independent_map fun _ _ _ => rfl

/-! ## Listings -/

namespace Listing

variable {item : Layout ρ}

theorem definite (items : item.Definite) : (layout item).Definite := by
  rw [Layout.Definite, layout, List.forall_mem_singleton]
  exact items.reader.list.map fun x (r : Listing ρ) => { r with items := x }

theorem independent : (layout item).fields.Pairwise Field.Independent :=
  List.pairwise_singleton _ _

/-- The items of a listing can have their members in another order, and more of them. -/
theorem respects (items : item.Definite)
    (independent : item.fields.Pairwise Field.Independent) :
    (layout item).Respects (Listwise item.Rewrites) := by
  rw [Layout.Respects, layout, List.forall_mem_singleton]
  intro v v' c related
  have same (as : List ρ) : (Reader.list item.reader).Takes v as ↔
      (Reader.list item.reader).Takes v' as :=
    related.takes_iff items.reader fun _ _ _ more => more.takes_iff items independent
  rw [items.reader.list.takes_map_iff, items.reader.list.takes_map_iff]
  simp only [same]

/-- Whatever is decoded from objects as a listing does not depend on the order of their members
or on foreign members, neither those of the listing nor those of its items; and no field is named
twice, neither in the listing nor in an item. -/
structure Unordered (item : Layout ρ) : Prop where
  listing : (layout item).Unordered (Listwise item.Rewrites)
  onceInside : ∀ ms s r, Layout.Holds ms s → (layout item).decode s = .ok r →
    ∀ m ∈ ms, m.name? = some "items" → ∀ vs, IsList vs m.value.val →
    ∀ v ∈ vs, ∀ inner, IsObject inner v.val →
    ∀ name ∈ item.names, (inner.map Member.name?).count (some name) ≤ 1

theorem unordered (items : item.Definite) (independent' : item.fields.Pairwise Field.Independent) :
    Unordered item where
  listing := Layout.unordered (definite items) independent (respects items independent')
  onceInside ms s r holds h m inside named vs list v inside' inner object name field := by
    have folds := (Layout.decode_iff_folds (definite items) holds).mp h
    have found : (layout item).field? "items" = some _ :=
      List.find?_cons_of_pos (decide_eq_true rfl)
    obtain ⟨c, takes⟩ := folds.exists_takes found inside named
    dsimp only at takes
    obtain ⟨as, takes, -⟩ := items.reader.list.takes_map_iff.mp takes
    obtain ⟨a, value⟩ := exists_takes inside' ((takes_list_iff items.reader list).mp takes)
    exact ((Layout.takes_object_iff items object).mp value).count_le field

end Listing

/-- Clouds, clusters and listings of them are decoded the same in any order of their members and
with any foreign members among them, and never when a field is named twice. -/
theorem records_ignore_order_and_foreign_members :
    CloudRecord.layout.Unordered Eq ∧ ClusterRecord.layout.Unordered Eq ∧
    Listing.Unordered CloudRecord.layout ∧ Listing.Unordered ClusterRecord.layout := by
  refine ⟨?_, ?_, ?_, ?_⟩
  · exact Layout.unordered CloudRecord.definite CloudRecord.independent (Layout.respects_eq _)
  · exact Layout.unordered ClusterRecord.definite ClusterRecord.independent (Layout.respects_eq _)
  · exact Listing.unordered CloudRecord.definite CloudRecord.independent
  · exact Listing.unordered ClusterRecord.definite ClusterRecord.independent

/-- Members in another order than the fields, in the listing's record. -/
example : Listing.clouds.decode (Utf8.encode r#"{"items":[{"name":"home","id":"1"}]}"#.toList) =
    .ok { items := [{ id := some "1", name := "home" }] } := by
  decide +kernel

/-- A field that is named twice is refused, even where both values are the same. -/
example : CloudRecord.decode (Utf8.encode r#"{"id":null,"name":"home","id":null}"#.toList) =
    .error (.duplicateField "id") := by
  decide +kernel

end Enrollment
