import Enrollment.Proofs.Json.Members
import Mathlib.Data.List.Pairwise

/-!
# Reading does not depend on the order of members

When the changes that two fields make can be made in either order, the members of an object can
stand in any order, and members that are no fields can stand anywhere among them. A value may be
exchanged for another one that its field reads as the same. A field that is named twice is never
read.
-/

namespace Enrollment.Json

variable {ρ : Type} {l : Layout ρ} {x y r : ρ} {seen : List String}
variable {ms ms' : List Member} {within : Bytes → Bytes → Prop}

/-- The changes that two fields ask for can be made in either order. -/
def Field.Independent (f g : Field ρ) : Prop :=
  ∀ v w c d, f.reader.Takes v c → g.reader.Takes w d → ∀ x, c (d x) = d (c x)

instance : Std.Symm (@Field.Independent ρ) where
  symm _ _ h v w c d takes takes' x := (h w v d c takes' takes x).symm

theorem Field.independent_map {α β : Type} {name name' : String} {read : Reader α}
    {read' : Reader β} {set : α → ρ → ρ} {set' : β → ρ → ρ} {write write' : ρ → Option (List Char)}
    (commute : ∀ a b x, set a (set' b x) = set' b (set a x)) :
    Independent ⟨name, read.map set, write⟩ ⟨name', read'.map set', write'⟩ := by
  intro v w c d takes takes' x
  obtain ⟨a, -, rfl⟩ := Reader.exists_of_run_map (takes [])
  obtain ⟨b, -, rfl⟩ := Reader.exists_of_run_map (takes' [])
  exact commute a b x

namespace Layout

def names (l : Layout ρ) : List String := l.fields.map (·.name)

theorem mem_names_of_field? {f : Field ρ} {name : String} (found : l.field? name = some f) :
    name ∈ l.names :=
  List.mem_map.mpr ⟨f, mem_of_field? found, name_of_field? found⟩

theorem field?_eq_none_iff {name : String} : l.field? name = none ↔ name ∉ l.names := by
  simp [field?, names, List.find?_eq_none]

/-- A member whose name is no field's. -/
def Foreign (l : Layout ρ) (m : Member) : Prop := ∃ name, m.name? = some name ∧ name ∉ l.names

/-- Values that `within` relates are read as the same by every field. -/
def Respects (l : Layout ρ) (within : Bytes → Bytes → Prop) : Prop :=
  ∀ f ∈ l.fields, ∀ v v' c, within v v' → (f.reader.Takes v c ↔ f.reader.Takes v' c)

theorem respects_eq (l : Layout ρ) : l.Respects Eq := by
  rintro f - v _ c rfl
  exact Iff.rfl

/-- `ms'` are the members `ms` in any order, with foreign members anywhere among them. The value
of a member may have been exchanged for one that `within` relates it to. -/
def Extends (l : Layout ρ) (within : Bytes → Bytes → Prop) (ms ms' : List Member) : Prop :=
  ∃ kept extra, List.Forall₂ (fun (m m' : Member) => m'.name? = m.name? ∧
      within m.value.val m'.value.val) ms kept ∧
    (∀ m ∈ extra, l.Foreign m) ∧ ms'.Perm (extra ++ kept)

/-- `s` is the text of an object with the members `ms`, with white space behind it. -/
def Holds (ms : List Member) (s : Bytes) : Prop :=
  ∃ t trail, IsObject ms t ∧ IsBlank trail ∧ s = t ++ trail

/-- What is decoded from objects with `l`: every text that decodes and starts with a brace is an
object; an object whose members are all foreign holds the blank record; whatever extends the
members of an object decodes to the same or, like the object, not at all; and an object that
decodes names no field twice. -/
structure Unordered (l : Layout ρ) (within : Bytes → Bytes → Prop) : Prop where
  covers : ∀ s r, l.decode s = .ok r → (skipSpace s).head? = some Mark.openObject →
    ∃ ms, Holds ms s
  foreign : ∀ ms s, Holds ms s → (∀ m ∈ ms, l.Foreign m) → l.decode s = .ok l.blank
  same : ∀ ms ms' s, l.Extends within ms ms' → Holds ms s →
    (∃ s', Holds ms' s') ∧
      ∀ s', Holds ms' s' → ∀ r, l.decode s = .ok r ↔ l.decode s' = .ok r
  once : ∀ ms s r, Holds ms s → l.decode s = .ok r →
    ∀ name ∈ l.names, (ms.map Member.name?).count (some name) ≤ 1

/-! ## What members amount to in another order -/

namespace Folds

/-- Of the names that have been read, their order does not count. -/
theorem congr {seen' : List String} (same : ∀ name, name ∈ seen ↔ name ∈ seen')
    (h : l.Folds seen ms x y) : l.Folds seen' ms x y := by
  induction h generalizing seen' with
  | nil => exact .nil
  | known found named fresh takes _ ih =>
      refine .known found named (fun old => fresh ((same _).mpr old)) takes (ih fun name => ?_)
      rw [List.mem_cons, List.mem_cons, same]
  | foreign named unknown _ ih => exact .foreign named unknown (ih same)

/-- Two members can change places. -/
theorem swap (independent : l.fields.Pairwise Field.Independent) {m m' : Member}
    (h : l.Folds seen (m :: m' :: ms) x y) : l.Folds seen (m' :: m :: ms) x y := by
  cases h with
  | foreign named unknown others =>
      cases others with
      | foreign named' unknown' others =>
          exact .foreign named' unknown' (.foreign named unknown others)
      | known found' named' fresh' takes' others =>
          exact .known found' named' fresh' takes' (.foreign named unknown others)
  | @known _ _ _ _ _ f c found named fresh takes others =>
      cases others with
      | foreign named' unknown' others =>
          exact .foreign named' unknown' (.known found named fresh takes others)
      | @known _ _ _ _ _ g d found' named' fresh' takes' others =>
          obtain ⟨other, fresh'⟩ := not_or.mp (mt List.mem_cons.mpr fresh')
          have commute : d (c x) = c (d x) := by
            have apart : g ≠ f := fun same => other (congrArg Field.name same)
            have both := independent.forall (mem_of_field? found') (mem_of_field? found) apart
            exact both _ _ d c takes' takes x
          have fresh : f.name ∉ g.name :: seen := by
            rw [List.mem_cons, not_or]
            exact ⟨fun same => other same.symm, fresh⟩
          -- The same names have been read behind both, in another order.
          refine .known found' named' fresh' takes' (.known found named fresh takes ?_)
          rw [← commute]
          refine others.congr fun name => ?_
          simp only [List.mem_cons]
          tauto

theorem of_perm (independent : l.fields.Pairwise Field.Independent) (perm : ms.Perm ms')
    (h : l.Folds seen ms x y) : l.Folds seen ms' x y := by
  induction perm generalizing seen x with
  | nil => exact h
  | cons m _ ih =>
      cases h with
      | known found named fresh takes others =>
          exact .known found named fresh takes (ih others)
      | foreign named unknown others => exact .foreign named unknown (ih others)
  | swap => exact h.swap independent
  | trans _ _ ih ih' => exact ih' (ih h)

/-- A value can be exchanged for one that is read as the same. -/
theorem exchange
    (reads : ∀ f ∈ l.fields, ∀ v v' c, within v v' → f.reader.Takes v c → f.reader.Takes v' c)
    (values : List.Forall₂ (fun (m m' : Member) => m'.name? = m.name? ∧
      within m.value.val m'.value.val) ms ms')
    (h : l.Folds seen ms x y) : l.Folds seen ms' x y := by
  induction values generalizing seen x with
  | nil => exact h
  | cons related _ ih =>
      obtain ⟨same, exchanged⟩ := related
      cases h with
      | known found named fresh takes others =>
          exact .known found (same.trans named) fresh
            (reads _ (mem_of_field? found) _ _ _ exchanged takes) (ih others)
      | foreign named unknown others => exact .foreign (same.trans named) unknown (ih others)

theorem exchange_iff (respects : l.Respects within)
    (values : List.Forall₂ (fun (m m' : Member) => m'.name? = m.name? ∧
      within m.value.val m'.value.val) ms ms') :
    l.Folds seen ms x y ↔ l.Folds seen ms' x y := by
  constructor
  · exact exchange (fun f field v v' c related => (respects f field v v' c related).mp) values
  · have back : List.Forall₂ (fun (m m' : Member) => m'.name? = m.name? ∧
        flip within m.value.val m'.value.val) ms' ms :=
      values.flip.imp fun _ _ ⟨same, related⟩ => ⟨same.symm, related⟩
    exact exchange (fun f field v v' c related => (respects f field v' v c related).mpr) back

/-- Foreign members amount to nothing. -/
theorem foreign_append_iff {extra : List Member} (foreign : ∀ m ∈ extra, l.Foreign m) :
    l.Folds seen (extra ++ ms) x y ↔ l.Folds seen ms x y := by
  induction extra with
  | nil => exact Iff.rfl
  | cons m extra ih =>
      obtain ⟨⟨name, named, unknown⟩, others⟩ := List.forall_mem_cons.mp foreign
      rw [← ih others]
      constructor
      · intro h
        cases h with
        | known found named' =>
            cases named.symm.trans named'
            exact absurd (mem_names_of_field? found) unknown
        | foreign _ _ others => exact others
      · exact .foreign named (field?_eq_none_iff.mpr unknown)

/-- Whatever extends the members amounts to the same. -/
theorem extend_iff (independent : l.fields.Pairwise Field.Independent)
    (respects : l.Respects within) (more : l.Extends within ms ms') :
    l.Folds seen ms x y ↔ l.Folds seen ms' x y := by
  obtain ⟨kept, extra, values, foreign, perm⟩ := more
  rw [exchange_iff respects values, ← foreign_append_iff foreign]
  exact ⟨of_perm independent perm.symm, of_perm independent perm⟩

/-- The value of a field has been read. -/
theorem exists_takes {f : Field ρ} {m : Member} {name : String}
    (found : l.field? name = some f) (inside : m ∈ ms) (named : m.name? = some name)
    (h : l.Folds seen ms x y) : ∃ c, f.reader.Takes m.value.val c := by
  induction h with
  | nil => cases inside
  | known found' named' _ takes _ ih =>
      rcases List.mem_cons.mp inside with rfl | later
      · obtain rfl := Option.some.inj (named.symm.trans named')
        cases found.symm.trans found'
        exact ⟨_, takes⟩
      · exact ih later
  | foreign named' unknown _ ih =>
      rcases List.mem_cons.mp inside with rfl | later
      · cases named.symm.trans named'
        cases found.symm.trans unknown
      · exact ih later

/-- A name that has been read does not come again, and any other name comes once at most. -/
theorem count_le {name : String} (field : name ∈ l.names) (h : l.Folds seen ms x y) :
    (ms.map Member.name?).count (some name) ≤ if name ∈ seen then 0 else 1 := by
  induction h with
  | nil => simp
  | @known seen m ms x y f change found named fresh takes others ih =>
      rw [List.map_cons, List.count_cons, named]
      by_cases same : f.name = name
      · subst same
        rw [if_pos List.mem_cons_self] at ih
        rw [if_neg fresh, if_pos (beq_self_eq_true _)]
        omega
      · have other : name ≠ f.name := fun eq => same eq.symm
        simp only [List.mem_cons, other, false_or] at ih
        simpa [same] using ih
  | @foreign seen m ms x y name' named unknown others ih =>
      have other : name' ≠ name := by
        rintro rfl
        exact field?_eq_none_iff.mp unknown field
      rw [List.map_cons, List.count_cons, named]
      simpa [other] using ih

end Folds

/-! ## What is decoded -/

/-- Any members can be written one behind the other. -/
theorem exists_holds (ms : List Member) : ∃ s, Holds ms s := by
  have others : ∀ ms, ∃ s, Inside .object Member.text false ms s := by
    intro ms
    induction ms with
    | nil => exact ⟨_, .close isBlank_nil⟩
    | cons m ms ih =>
        obtain ⟨s, inside⟩ := ih
        exact ⟨_, .next isBlank_nil inside⟩
  have all : ∃ s, Inside .object Member.text true ms s := by
    cases ms with
    | nil => exact ⟨_, .close isBlank_nil⟩
    | cons m ms =>
        obtain ⟨s, inside⟩ := others ms
        exact ⟨_, .first inside⟩
  obtain ⟨inner, inside⟩ := all
  exact ⟨_, _, [], ⟨[], inner, isBlank_nil, inside, rfl⟩, isBlank_nil, rfl⟩

theorem decode_iff_folds (definite : l.Definite) {s : Bytes} (h : Holds ms s) :
    l.decode s = .ok r ↔ l.Folds [] ms l.blank r := by
  obtain ⟨t, trail, object, blank, rfl⟩ := h
  exact (definite.reader.decode_iff object.isValue blank).trans (takes_object_iff definite object)

theorem unordered (definite : l.Definite) (independent : l.fields.Pairwise Field.Independent)
    (respects : l.Respects within) : l.Unordered within where
  covers s r h brace := by
    obtain ⟨v, trail, value, blank, rfl⟩ := definite.reader.exists_of_decode h
    obtain ⟨b, more, -, skip⟩ := value.opens
    have brace' : (skipSpace v).head? = some Mark.openObject := by
      have skip' := skip []
      rw [List.append_nil] at skip'
      rw [skip] at brace
      rw [skip']
      exact brace
    obtain ⟨ms, object⟩ := exists_isObject value brace'
    exact ⟨ms, v, trail, object, blank, rfl⟩
  foreign ms s holds foreign := by
    have folds : l.Folds [] (ms ++ []) l.blank l.blank :=
      (Folds.foreign_append_iff foreign).mpr .nil
    rw [List.append_nil] at folds
    exact (decode_iff_folds definite holds).mpr folds
  same ms ms' s more holds := by
    refine ⟨exists_holds ms', fun s' holds' r => ?_⟩
    rw [decode_iff_folds definite holds, decode_iff_folds definite holds']
    exact Folds.extend_iff independent respects more
  once ms s r holds h name field :=
    ((decode_iff_folds definite holds).mp h).count_le field

end Layout

/-! ## Values that are read as the same -/

/-- One value is the other, or both are objects and the members of one extend the other's. -/
inductive Layout.Rewrites (l : Layout ρ) : Bytes → Bytes → Prop
  | same (v : Bytes) : Rewrites l v v
  | object {ms ms' : List Member} {v v' : Bytes} (more : l.Extends Eq ms ms')
      (object : IsObject ms v) (object' : IsObject ms' v') : Rewrites l v v'

/-- One value is the other, or both are lists and their values are related one by one. -/
inductive Listwise (related : Bytes → Bytes → Prop) : Bytes → Bytes → Prop
  | same (v : Bytes) : Listwise related v v
  | list {vs vs' : List Value} {v v' : Bytes}
      (values : List.Forall₂ (fun v v' => related v.val v'.val) vs vs')
      (list : IsList vs v) (list' : IsList vs' v') : Listwise related v v'

theorem Layout.Rewrites.takes_iff {v v' : Bytes} (definite : l.Definite)
    (independent : l.fields.Pairwise Field.Independent) (h : l.Rewrites v v') :
    l.reader.Takes v r ↔ l.reader.Takes v' r := by
  cases h with
  | same => exact Iff.rfl
  | object more object object' =>
      rw [takes_object_iff definite object, takes_object_iff definite object']
      exact Folds.extend_iff independent (respects_eq l) more

theorem Listwise.takes_iff {α : Type} {item : Reader α} {related : Bytes → Bytes → Prop}
    {v v' : Bytes} {as : List α} (definite : item.Definite)
    (each : ∀ v v' a, related v v' → (item.Takes v a ↔ item.Takes v' a))
    (h : Listwise related v v') :
    (Reader.list item).Takes v as ↔ (Reader.list item).Takes v' as := by
  cases h with
  | same => exact Iff.rfl
  | @list vs vs' _ _ values list list' =>
      rw [takes_list_iff definite list, takes_list_iff definite list']
      -- The lists are read value by value, and their texts do not matter any more.
      clear list list'
      induction values generalizing as with
      | nil => exact Iff.rfl
      | cons related _ ih =>
          simp only [List.forall₂_cons_left_iff, each _ _ _ related, ih]

end Enrollment.Json
