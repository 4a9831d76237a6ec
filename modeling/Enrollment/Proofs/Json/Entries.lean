import Enrollment.Proofs.Json.Definite
import Enrollment.Proofs.Json.Restores

/-!
# Lists and objects by their entries

A list is the values between its brackets, an object the members between its braces, with commas
between them and white space wherever it may stand. What is read as a list or an object has this
form, and from a text of this form exactly that is read which its entries hold: a list is read
value by value, and the members of an object change the record one after the other.
-/

namespace Enrollment.Json

variable {s t r rest lead : Bytes} {b : UInt8} {first : Bool}

/-! ## The form -/

/-- A value, with the white space in front of it. -/
abbrev Value := { v : Bytes // IsValue v }

/-- A member of an object. The opening quote is left out of its key. -/
structure Member where
  lead : Bytes
  key : Bytes
  gap : Bytes
  value : Value
  blankLead : IsBlank lead
  isText : IsText key
  blankGap : IsBlank gap

def Member.text (m : Member) : Bytes :=
  m.lead ++ Mark.quote :: (m.key ++ (m.gap ++ Mark.colon :: m.value.val))

/-- The content of the key, if it can be read as a text. -/
def Member.name? (m : Member) : Option String := (textBody m.key).toOption.map Prod.fst

/-- `s` is what is left of an open list or object with the entries `es`, none of which has been
passed when `first` is true. -/
inductive Inside {ε : Type} (frame : Frame) (text : ε → Bytes) : Bool → List ε → Bytes → Prop
  | close {first : Bool} {pad : Bytes} (blank : IsBlank pad) :
      Inside frame text first [] (pad ++ [frame.closing])
  | first {e : ε} {es : List ε} {s : Bytes} (others : Inside frame text false es s) :
      Inside frame text true (e :: es) (text e ++ s)
  | next {lead : Bytes} {e : ε} {es : List ε} {s : Bytes} (blank : IsBlank lead)
      (others : Inside frame text false es s) :
      Inside frame text false (e :: es) (lead ++ Mark.comma :: (text e ++ s))

/-- `s` is a list of the values `vs`. -/
def IsList (vs : List Value) (s : Bytes) : Prop :=
  ∃ lead inner, IsBlank lead ∧ Inside .list Subtype.val true vs inner ∧
    s = lead ++ Mark.openList :: inner

/-- `s` is an object with the members `ms`. -/
def IsObject (ms : List Member) (s : Bytes) : Prop :=
  ∃ lead inner, IsBlank lead ∧ Inside .object Member.text true ms inner ∧
    s = lead ++ Mark.openObject :: inner

/-! ## Lists and objects are values -/

theorem Member.derives (m : Member) : Derives (.entry .object) m.text := by
  obtain ⟨space, v, blank, derives, split⟩ := m.value.property
  rw [Member.text, split]
  exact .member m.blankLead m.isText m.blankGap blank derives

theorem derives_value (v : Value) : Derives (.entry .list) v.val := by
  obtain ⟨lead, v, blank, derives, split⟩ := v.property
  rw [split]
  exact .item blank derives

theorem Inside.derives {ε : Type} {frame : Frame} {text : ε → Bytes} {es : List ε}
    (entries : ∀ e, Derives (.entry frame) (text e)) (h : Inside frame text first es s) :
    Derives (.inside frame first) s := by
  induction h with
  | close blank => exact .close blank
  | first _ ih => exact .first (entries _) ih
  | next blank _ ih => exact .next blank (entries _) ih

theorem IsList.isValue {vs : List Value} (h : IsList vs s) : IsValue s := by
  obtain ⟨lead, inner, blank, inside, rfl⟩ := h
  exact ⟨lead, _, blank, .nested (inside.derives derives_value), rfl⟩

theorem IsObject.isValue {ms : List Member} (h : IsObject ms s) : IsValue s := by
  obtain ⟨lead, inner, blank, inside, rfl⟩ := h
  exact ⟨lead, _, blank, .nested (inside.derives Member.derives), rfl⟩

/-! ## Values in brackets are lists, values in braces are objects -/

theorem exists_inside {ε : Type} {frame : Frame} {text : ε → Bytes}
    (entries : ∀ e, Derives (.entry frame) e → ∃ a, text a = e)
    (h : Derives (.inside frame first) s) : ∃ es, Inside frame text first es s := by
  generalize same : Symbol.inside frame first = symbol at h
  induction h generalizing first with
  | close blank =>
      cases same
      exact ⟨[], .close blank⟩
  | first entry _ _ ih =>
      cases same
      obtain ⟨a, rfl⟩ := entries _ entry
      obtain ⟨es, others⟩ := ih rfl
      exact ⟨a :: es, .first others⟩
  | next blank entry _ _ ih =>
      cases same
      obtain ⟨a, rfl⟩ := entries _ entry
      obtain ⟨es, others⟩ := ih rfl
      exact ⟨a :: es, .next blank others⟩
  | _ => cases same

theorem exists_member {e : Bytes} (h : Derives (.entry .object) e) : ∃ m : Member, m.text = e := by
  cases h with
  | @member lead key gap space v blank name before behind value =>
      exact ⟨⟨lead, key, gap, ⟨space ++ v, space, v, behind, value, rfl⟩, blank, name, before⟩, rfl⟩

/-- A value that starts with a brace is an object. -/
theorem exists_isObject (value : IsValue s) (brace : (skipSpace s).head? = some Mark.openObject) :
    ∃ ms, IsObject ms s := by
  obtain ⟨lead, v, blank, derives, rfl⟩ := value
  rw [skipSpace_append blank] at brace
  cases derives with
  | word member =>
      simp only [words, List.mem_cons, List.not_mem_nil, or_false] at member
      rcases member with rfl | rfl | rfl <;> cases brace
  | number unsigned =>
      obtain ⟨d, more, rfl, digit⟩ := unsigned.opens
      rw [skipSpace_of_not_isSpace (opens_of_isDigit digit).1] at brace
      cases brace
      cases digit
  | negative => cases brace
  | text => cases brace
  | @nested frame inner derives =>
      cases frame with
      | list => cases brace
      | object =>
          obtain ⟨ms, inside⟩ := exists_inside (fun e => exists_member) derives
          exact ⟨ms, lead, inner, blank, inside, rfl⟩

/-! ## Reading lists -/

section

variable {α : Type} {x : Reader α} {as : List α} {vs : List Value}

theorem exists_of_readOn (h : readOn x s = .ok (as, r)) :
    ∃ a behind more, x.run s = .ok (a, behind) ∧ readItems x false behind = .ok (more, r) ∧
      as = a :: more := by
  unfold readOn at h
  split at h
  · cases h
  · next read =>
    split at h
    · cases h
    · next others =>
      cases h
      exact ⟨_, _, _, read, others, rfl⟩

theorem delimited_of_readItems (h : readItems x false s = .ok (as, r)) : Delimited s := by
  rw [readItems] at h
  split at h
  · cases h
  · next skip =>
    obtain ⟨lead, blank, -, rfl⟩ := exists_of_skipSpace skip
    refine delimited_append blank (delimited_cons ?_ _)
    split at h
    · next closed =>
      subst closed
      decide
    · rw [if_neg Bool.false_ne_true] at h
      split at h
      · next comma =>
        subst comma
        decide
      · cases h

theorem skipSpace_close (frame : Frame) (blank : IsBlank lead) (rest : Bytes) :
    skipSpace (lead ++ [frame.closing] ++ rest) = frame.closing :: rest := by
  rw [List.append_assoc, skipSpace_append blank, List.singleton_append, skipSpace_of_not_isSpace]
  cases frame <;> decide

/-- Where a list goes on with a value, this value is read next. -/
theorem readItems_value (v : Value) (behind : Bytes) :
    readItems x true (v.val ++ behind) = readOn x (v.val ++ behind) ∧
      ∀ lead, IsBlank lead →
        readItems x false (lead ++ Mark.comma :: (v.val ++ behind)) = readOn x (v.val ++ behind) := by
  obtain ⟨b, more, ⟨solid, -, item, -⟩, skip⟩ := v.property.opens
  refine ⟨readItems_first (skip behind) item, fun lead blank => ?_⟩
  refine readItems_next ?_ (skip behind) item
  rw [skipSpace_append blank]
  rfl

/-- A list is read value by value. -/
theorem readItems_inside (h : Inside .list Subtype.val first vs s)
    (takes : List.Forall₂ (fun v a => x.Takes v.val a) vs as) (rest : Bytes) :
    readItems x first (s ++ rest) = .ok (as, rest) := by
  induction h generalizing as with
  | close blank =>
      cases takes
      exact readItems_of_close (skipSpace_close .list blank rest)
  | @first v vs s _ ih =>
      cases takes with
      | cons value others =>
        rw [List.append_assoc, (readItems_value v _).1]
        exact readOn_of_run (value _) (ih others)
  | @next lead v vs s blank _ ih =>
      cases takes with
      | cons value others =>
        rw [List.append_assoc, List.cons_append, List.append_assoc,
          (readItems_value v _).2 lead blank]
        exact readOn_of_run (value _) (ih others)

/-- A value is read to its end where a list goes on behind it. -/
theorem takes_of_readOn {v : Value} (definite : x.Definite)
    (inside : Inside .list Subtype.val false vs s)
    (read : readOn x (v.val ++ (s ++ rest)) = .ok (as, r)) :
    ∃ a more, x.Takes v.val a ∧ readItems x false (s ++ rest) = .ok (more, r) ∧ as = a :: more := by
  obtain ⟨a, behind, more, first, others, rfl⟩ := exists_of_readOn read
  have ends := delimited_of_inside (inside.derives derives_value) rest
  obtain ⟨rfl, takes⟩ := definite.takes v.property ends (delimited_of_readItems others) first
  exact ⟨a, more, takes, others, rfl⟩

/-- Nothing is read from a list but what its values hold. -/
theorem takes_of_readItems (definite : x.Definite) (h : Inside .list Subtype.val first vs s)
    (read : readItems x first (s ++ rest) = .ok (as, r)) :
    List.Forall₂ (fun v a => x.Takes v.val a) vs as := by
  induction h generalizing as with
  | close blank =>
      cases (readItems_of_close (skipSpace_close .list blank rest)).symm.trans read
      exact .nil
  | @first v vs s inside ih =>
      rw [List.append_assoc, (readItems_value v _).1] at read
      obtain ⟨a, more, takes, others, rfl⟩ := takes_of_readOn definite inside read
      exact .cons takes (ih others)
  | @next lead v vs s blank inside ih =>
      rw [List.append_assoc, List.cons_append, List.append_assoc,
        (readItems_value v _).2 lead blank] at read
      obtain ⟨a, more, takes, others, rfl⟩ := takes_of_readOn definite inside read
      exact .cons takes (ih others)

/-- Whatever is read as a list consists of values. -/
theorem exists_of_readItems (definite : x.Definite) (h : readItems x first s = .ok (as, r)) :
    ∃ (vs : List Value) (t : Bytes), Inside .list Subtype.val first vs t ∧ s = t ++ r := by
  fun_induction readItems x first s generalizing as r with
  | case2 _ _ _ skip =>
      cases h
      obtain ⟨pad, blank, -, rfl⟩ := exists_of_skipSpace skip
      exact ⟨[], pad ++ [Frame.list.closing], .close blank, by rw [List.append_assoc]; rfl⟩
  | case5 _ _ _ _ _ _ _ _ read _ _ _ others ih =>
      cases h
      obtain ⟨v, value, rfl, -⟩ := definite _ _ _ read
      obtain ⟨vs, t, inside, rfl⟩ := ih others
      exact ⟨⟨v, value⟩ :: vs, _, .first inside, (List.append_assoc _ _ _).symm⟩
  | case10 first _ _ later _ _ _ _ _ _ read _ _ _ others skip _ _ ih =>
      cases h
      obtain rfl : first = false := by simpa using later
      obtain ⟨lead, blank, -, rfl⟩ := exists_of_skipSpace skip
      obtain ⟨v, value, rfl, -⟩ := definite _ _ _ read
      obtain ⟨vs, t, inside, rfl⟩ := ih others
      exact ⟨⟨v, value⟩ :: vs, _, .next blank inside, by simp⟩
  | _ => cases h

theorem readList_eq (blank : IsBlank lead) (s : Bytes) :
    (Reader.list x).run (lead ++ Mark.openList :: s) = readItems x true s := by
  change readList x _ = _
  rw [readList, skipSpace_append blank, skipSpace_of_not_isSpace rfl]
  exact if_pos rfl

/-- A list is taken as what its values are taken as. -/
theorem takes_list_iff (definite : x.Definite) (h : IsList vs s) :
    (Reader.list x).Takes s as ↔ List.Forall₂ (fun v a => x.Takes v.val a) vs as := by
  obtain ⟨lead, inner, blank, inside, rfl⟩ := h
  constructor
  · intro takes
    have read := takes []
    rw [List.append_assoc, List.cons_append, readList_eq blank] at read
    exact takes_of_readItems definite inside read
  · intro takes rest
    rw [List.append_assoc, List.cons_append, readList_eq blank]
    exact readItems_inside inside takes rest

/-- Every value of a list that is read has been taken as something. -/
theorem exists_takes {v : Value} (inside : v ∈ vs)
    (h : List.Forall₂ (fun (v : Value) a => x.Takes v.val a) vs as) :
    ∃ a, x.Takes v.val a := by
  induction h with
  | nil => cases inside
  | cons takes _ ih =>
      rcases List.mem_cons.mp inside with rfl | later
      · exact ⟨_, takes⟩
      · exact ih later

theorem exists_of_readList (definite : x.Definite) (h : (Reader.list x).run s = .ok (as, r)) :
    ∃ vs t, IsList vs t ∧ s = t ++ r ∧ (Reader.list x).Takes t as := by
  change readList x s = _ at h
  unfold readList at h
  split at h
  · cases h
  · next skip =>
    split at h
    · next opened =>
      subst opened
      obtain ⟨lead, blank, -, rfl⟩ := exists_of_skipSpace skip
      obtain ⟨vs, inner, inside, rfl⟩ := exists_of_readItems definite h
      have list : IsList vs (lead ++ Mark.openList :: inner) := ⟨lead, inner, blank, inside, rfl⟩
      exact ⟨vs, _, list, by simp, (takes_list_iff definite list).mpr
        (takes_of_readItems definite inside h)⟩
    · cases h

theorem Reader.Definite.list (definite : x.Definite) : (Reader.list x).Definite := by
  intro s as r h
  obtain ⟨vs, t, list, split, takes⟩ := exists_of_readList definite h
  exact ⟨t, list.isValue, split, takes⟩

end

end Enrollment.Json
