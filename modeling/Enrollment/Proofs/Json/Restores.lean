import Enrollment.Proofs.Json.Reads
import Mathlib.Data.List.Nodup

/-!
# Reading written records back

A record is written field by field, and read by changing the blank record once for every member.
Two facts about a layout follow from facts about its fields. When what each field writes of `r`
restores this field, the written form of `r` is read back as `r`: the fields that are left out
have in the blank record already what they have in `r`. And when every change that a field can
ask for keeps a property, everything that is read has this property.
-/

namespace Enrollment.Json

variable {ρ : Type} {f : Field ρ} {fs : List (Field ρ)} {l : Layout ρ} {r x y : ρ}
variable {seen : List String} {rest : Bytes}

namespace Field

/-- The member that `r` is written with, unless the field is left out. -/
def member? (r : ρ) (f : Field ρ) : Option (List Char) :=
  (f.write r).map fun value => quote f.name ++ ':' :: value

/-- What `f` writes of `r` is read as a change of `x` to `y`. What `f` leaves out is no change. -/
inductive Restores (f : Field ρ) (r x : ρ) : ρ → Prop
  | written {value : List Char} {change : ρ → ρ} (write : f.write r = some value)
      (reads : Reads f.reader value change) : Restores f r x (change x)
  | omitted (write : f.write r = none) : Restores f r x x

theorem restores_text (name : String) (get : ρ → String) (set : String → ρ → ρ)
    (blank : set "" x = x) : (text name get set).Restores r x (set (get r) x) := by
  by_cases empty : (get r).isEmpty = true
  · have omitted : (text name get set).Restores r x x := .omitted (if_pos empty)
    rw [String.isEmpty_iff.mp empty, blank]
    exact omitted
  · exact .written (if_neg empty) ((reads_text (get r)).map set)

theorem restores_optionalText (name : String) (get : ρ → Option String)
    (set : Option String → ρ → ρ) (blank : set none x = x) :
    (optionalText name get set).Restores r x (set (get r) x) := by
  cases found : get r with
  | none =>
      have omitted : (optionalText name get set).Restores r x x :=
        .omitted (congrArg (Option.map quote) found)
      rw [blank]
      exact omitted
  | some s =>
      exact .written (congrArg (Option.map quote) found) ((reads_optionalText s).map set)

theorem restores_texts (name : String) (get : ρ → List String) (set : List String → ρ → ρ)
    (blank : set [] x = x) : (texts name get set).Restores r x (set (get r) x) := by
  by_cases empty : (get r).isEmpty = true
  · have omitted : (texts name get set).Restores r x x := .omitted (if_pos empty)
    rw [List.isEmpty_iff.mp empty, blank]
    exact omitted
  · have items := Reads.list fun s (_ : s ∈ get r) => reads_text s
    exact .written (if_neg empty) (items.map set)

/-- Every change that `f` can ask for keeps `P`. -/
def Keeps (P : ρ → Prop) (f : Field ρ) : Prop :=
  ∀ (s : Bytes) (change : ρ → ρ) (rest : Bytes), f.reader.run s = .ok (change, rest) →
    ∀ x, P x → P (change x)

theorem keeps_map {α : Type} {P : ρ → Prop} {name : String} {reader : Reader α}
    {set : α → ρ → ρ} {write : ρ → Option (List Char)}
    (keeps : ∀ {s a rest}, reader.run s = .ok (a, rest) → ∀ x, P x → P (set a x)) :
    Keeps P ⟨name, reader.map set, write⟩ := by
  intro s change rest read
  change (reader.run s).map _ = _ at read
  cases found : reader.run s with
  | error fault =>
      rw [found] at read
      cases read
  | ok p =>
      rw [found] at read
      cases read
      exact keeps found

end Field

namespace Layout

open Json.Field

/-! ## Reading what is written -/

/-- What the fields `fs` write of `r` is read as a change of `x` to `y`. -/
inductive Restored (r : ρ) : List (Field ρ) → ρ → ρ → Prop
  | nil {x : ρ} : Restored r [] x x
  | cons {f : Field ρ} {fs : List (Field ρ)} {x y z : ρ} (first : f.Restores r x y)
      (others : Restored r fs y z) : Restored r (f :: fs) x z

theorem nextKey_joined (first : Bool) (s : Bytes) :
    nextKey first (Utf8.encode (if first then [] else [',']) ++ Mark.quote :: s) =
      .ok (true, s) := by
  cases first <;> rfl

theorem nextKey_close (first : Bool) (s : Bytes) :
    nextKey first (Mark.closeObject :: s) = .ok (false, s) := by
  cases first <;> rfl

/-- A member of a field that has not been read yet. -/
theorem readMember_written {value : List Char} {change : ρ → ρ}
    (known : l.field? f.name = some f) (fresh : f.name ∉ seen)
    (reads : Reads f.reader value change) (rest : Bytes) :
    l.readMember seen f.name (Utf8.encode (':' :: value) ++ rest) =
      .ok (change, f.name :: seen, rest) := by
  have colon : expectColon (Utf8.encode (':' :: value) ++ rest) =
      .ok (Utf8.encode value ++ rest) := rfl
  rw [readMember, known]
  simp only [if_neg fresh, colon, reads.run]
  rfl

/-- The members that are left are read one after the other. -/
theorem readMembers_member {first : Bool} {name : String} {change : ρ → ρ} {seen' : List String}
    {s key behind more : Bytes} (opens : nextKey first s = .ok (true, key))
    (named : textBody key = .ok (name, behind))
    (member : l.readMember seen name behind = .ok (change, seen', more)) :
    l.readMembers seen first x s = l.readMembers seen' false (change x) more := by
  rw [readMembers]
  split
  · next failed => cases opens.symm.trans failed
  · next closed => cases opens.symm.trans closed
  · next same =>
    cases opens.symm.trans same
    split
    · next failed => cases named.symm.trans failed
    · next same =>
      cases named.symm.trans same
      split
      · next failed => cases member.symm.trans failed
      · next same =>
        cases member.symm.trans same
        rfl

theorem readMembers_of_close {first : Bool} {s : Bytes}
    (closed : nextKey first s = .ok (false, rest)) :
    l.readMembers seen first x s = .ok (x, rest) := by
  rw [readMembers]
  split
  · next failed => cases closed.symm.trans failed
  · next same =>
    cases closed.symm.trans same
    rfl
  · next opened => cases closed.symm.trans opened

/-- Members with commas between them are read back up to the brace that closes the object. -/
theorem readMembers_joined (chain : Restored r fs x y)
    (known : ∀ f ∈ fs, l.field? f.name = some f) (distinct : (fs.map (·.name)).Nodup)
    (fresh : ∀ f ∈ fs, f.name ∉ seen) (first : Bool) (rest : Bytes) :
    l.readMembers seen first x
      (Utf8.encode (joined first (fs.filterMap (member? r))) ++ Mark.closeObject :: rest) =
        .ok (y, rest) := by
  induction chain generalizing seen first with
  | nil =>
      rw [List.filterMap_nil, joined_nil]
      exact readMembers_of_close (nextKey_close first rest)
  | @cons f fs x y z restores _ ih =>
      have known' := fun g inside => known g (List.mem_cons_of_mem _ inside)
      rw [List.map_cons, List.nodup_cons] at distinct
      cases restores with
      | omitted write =>
          have left : member? r f = none := by rw [member?, write, Option.map_none]
          rw [List.filterMap_cons_none left]
          exact ih known' distinct.2 (fun g inside => fresh g (List.mem_cons_of_mem _ inside)) first
      | @written value change write reads =>
          have member : member? r f = some (quote f.name ++ ':' :: value) := by
            rw [member?, write, Option.map_some]
          have fresh' : ∀ g ∈ fs, g.name ∉ f.name :: seen := by
            intro g inside repeated
            rcases List.mem_cons.mp repeated with same | old
            · exact distinct.1 (same ▸ List.mem_map_of_mem inside)
            · exact fresh g (List.mem_cons_of_mem _ inside) old
          rw [List.filterMap_cons_some member, joined_cons]
          simp only [Utf8.encode_append, List.append_assoc]
          rw [encode_quote, readMembers_member (nextKey_joined first _) (textBody_written _ _)
            (readMember_written (known f List.mem_cons_self) (fresh f List.mem_cons_self) reads _)]
          exact ih known' distinct.2 fresh' false

/-- Fields of different names are found by their names. -/
theorem field?_of_mem (distinct : (l.fields.map (·.name)).Nodup) (inside : f ∈ l.fields) :
    l.field? f.name = some f := by
  obtain ⟨g, found⟩ := Option.isSome_iff_exists.mp
    (List.find?_isSome.mpr ⟨f, inside, decide_eq_true rfl⟩ : (l.field? f.name).isSome)
  have named : g.name = f.name := by simpa using List.find?_some found
  have same := List.inj_on_of_nodup_map distinct (List.mem_of_find?_eq_some found) inside named
  exact same ▸ found

/-- A record that the fields of its layout restore is read back. -/
theorem reads_write (distinct : (l.fields.map (·.name)).Nodup)
    (chain : Restored r l.fields l.blank r) : Reads l.reader (l.write r) r := by
  have bytes (rest : Bytes) : Utf8.encode (l.write r) ++ rest = Mark.openObject ::
      (Utf8.encode (joined true (l.fields.filterMap (member? r))) ++ Mark.closeObject :: rest) := by
    simp only [write, Utf8.encode_cons, Utf8.encode_append, Utf8.encode_nil, List.append_nil,
      List.append_assoc]
    rfl
  constructor
  case opens =>
    have whole := bytes []
    rw [List.append_nil] at whole
    exact ⟨_, _, whole, rfl, by decide⟩
  case run =>
    intro rest
    change l.read (Utf8.encode (l.write r) ++ rest) = _
    rw [bytes, read, skipSpace_of_not_isSpace rfl]
    exact readMembers_joined chain (fun f => field?_of_mem distinct) distinct (by simp) true rest

/-! ## What is done for one member or one position -/

section

variable {s : Bytes}

/-- What the name of a member decides: its value is read by a field that has not been read yet, or
it is passed over. -/
theorem readMember_cases {name : String} {change : ρ → ρ} {seen' : List String}
    (h : l.readMember seen name s = .ok (change, seen', rest)) :
    ∃ behind, expectColon s = .ok behind ∧
      ((∃ f, l.field? name = some f ∧ name ∉ seen ∧ f.reader.run behind = .ok (change, rest) ∧
          seen' = name :: seen) ∨
        (l.field? name = none ∧ skipValue behind = .ok rest ∧ change = id ∧ seen' = seen)) := by
  unfold readMember at h
  split at h
  · next f found =>
    split at h
    · cases h
    · next fresh =>
      split at h
      · cases h
      · next behind passed =>
        cases read : f.reader.run behind with
        | error fault =>
            rw [read] at h
            cases h
        | ok p =>
            rw [read] at h
            cases h
            exact ⟨behind, passed, .inl ⟨f, found, fresh, read, rfl⟩⟩
  · next unknown =>
    split at h
    · cases h
    · next behind passed =>
      cases skipped : skipValue behind with
      | error fault =>
          rw [skipped] at h
          cases h
      | ok p =>
          rw [skipped] at h
          cases h
          exact ⟨behind, passed, .inr ⟨unknown, skipped, rfl, rfl⟩⟩

/-- The list ends, or the value of the next field has been read, in front or behind a comma. -/
theorem readPositions_cases {first : Bool}
    (h : readPositions (f :: fs) first x s = .ok (y, rest)) :
    (skipSpace s = Mark.closeList :: rest ∧ y = x) ∨
      ∃ t change behind, (first = true ∧ t = s ∨ first = false ∧ skipSpace s = Mark.comma :: t) ∧
        f.reader.run t = .ok (change, behind) ∧
        readPositions fs false (change x) behind = .ok (y, rest) := by
  rw [readPositions] at h
  split at h
  · cases h
  · next skip =>
    split at h
    · next closed =>
      cases h
      exact .inl ⟨closed ▸ skip, rfl⟩
    · split at h
      · next isFirst =>
        dsimp only at h
        split at h
        · cases h
        · next read => exact .inr ⟨_, _, _, .inl ⟨isFirst, rfl⟩, read, h⟩
      · next later =>
        split at h
        · next comma =>
          split at h
          · cases h
          · split at h
            · cases h
            · dsimp only at h
              split at h
              · cases h
              · next read =>
                exact .inr ⟨_, _, _, .inr ⟨by simpa using later, comma ▸ skip⟩, read, h⟩
        · cases h

end

/-! ## What is read has what all changes keep -/

variable {P : ρ → Prop} {s : Bytes}

theorem readMember_keeps {name : String} {change : ρ → ρ} {seen' : List String}
    (keeps : ∀ f ∈ l.fields, f.Keeps P) (h : l.readMember seen name s = .ok (change, seen', rest)) :
    ∀ x, P x → P (change x) := by
  obtain ⟨behind, -, ⟨f, found, -, read, -⟩ | ⟨-, -, rfl, -⟩⟩ := readMember_cases h
  · exact keeps f (List.mem_of_find?_eq_some found) _ _ _ read
  · exact fun _ kept => kept

theorem readMembers_keeps {first : Bool} (keeps : ∀ f ∈ l.fields, f.Keeps P)
    (h : l.readMembers seen first x s = .ok (y, rest)) (start : P x) : P y := by
  fun_induction l.readMembers seen first x s with
  | case1 => cases h
  | case2 =>
      cases h
      exact start
  | case3 => cases h
  | case4 => cases h
  | case5 _ _ _ _ _ _ _ _ _ _ _ _ _ _ member _ ih =>
      exact ih h (readMember_keeps keeps member _ start)

theorem readPositions_keeps {first : Bool} (keeps : ∀ f ∈ fs, f.Keeps P)
    (h : readPositions fs first x s = .ok (y, rest)) (start : P x) : P y := by
  induction fs generalizing first x s with
  | nil =>
      rw [readPositions] at h
      cases closed : closeList s with
      | error fault =>
          rw [closed] at h
          cases h
      | ok p =>
          rw [closed] at h
          cases h
          exact start
  | cons f fs ih =>
      obtain ⟨here, others⟩ := List.forall_mem_cons.mp keeps
      rcases readPositions_cases h with ⟨-, rfl⟩ | ⟨t, change, behind, -, read, more⟩
      · exact start
      · exact ih others more (here _ _ _ read x start)

/-- Everything that is read has a property that the blank record has and that all changes keep. -/
theorem read_keeps (keeps : ∀ f ∈ l.fields, f.Keeps P) (blank : P l.blank)
    (h : l.read s = .ok (r, rest)) : P r := by
  unfold read at h
  split at h
  · cases h
  · split at h
    · exact readMembers_keeps keeps h blank
    · split at h
      · exact readPositions_keeps keeps h blank
      · cases h

end Layout

end Enrollment.Json
