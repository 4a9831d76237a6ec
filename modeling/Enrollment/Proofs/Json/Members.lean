import Enrollment.Proofs.Json.Entries

/-!
# Reading a record from its members

A member whose name is a field's changes the record as the reader of this field says, any other
member leaves it, and no field may be named twice. Which member changes the record in which way
is decided by its name and its value alone, so what is read from an object is said of the list of
its members, without the text.
-/

namespace Enrollment.Json

variable {ρ : Type} {l : Layout ρ} {f : Field ρ} {x y : ρ} {seen : List String} {name : String}
variable {s t r rest lead : Bytes} {first : Bool} {m : Member} {ms : List Member}

/-! ## The name of a member -/

theorem Member.text_append (m : Member) (behind : Bytes) : m.text ++ behind =
    m.lead ++ Mark.quote :: (m.key ++ (m.gap ++ Mark.colon :: (m.value.val ++ behind))) := by
  simp only [Member.text, List.append_assoc, List.cons_append]

theorem Member.textBody_key (named : m.name? = some name) (behind : Bytes) :
    textBody (m.key ++ behind) = .ok (name, behind) := by
  cases read : textBody m.key with
  | error fault =>
      rw [Member.name?, read] at named
      cases named
  | ok p =>
      rw [Member.name?, read] at named
      cases named
      have read' : textBody (m.key ++ []) = .ok (p.1, p.2) := by
        rw [List.append_nil]
        exact read
      obtain ⟨ends, whole⟩ := textBody_append m.isText read'
      exact textBody_behind whole behind

theorem Member.name?_of_textBody {behind : Bytes}
    (read : textBody (m.key ++ behind) = .ok (name, r)) : r = behind ∧ m.name? = some name := by
  obtain ⟨rfl, whole⟩ := textBody_append m.isText read
  exact ⟨rfl, by rw [Member.name?, whole]; rfl⟩

namespace Layout

/-! ## What members amount to -/

/-- The members `ms` change `x` to `y` when the fields in `seen` have been read before. -/
inductive Folds (l : Layout ρ) : List String → List Member → ρ → ρ → Prop
  | nil {seen : List String} {x : ρ} : Folds l seen [] x x
  | known {seen : List String} {m : Member} {ms : List Member} {x y : ρ} {f : Field ρ}
      {change : ρ → ρ} (found : l.field? f.name = some f) (named : m.name? = some f.name)
      (fresh : f.name ∉ seen) (takes : f.reader.Takes m.value.val change)
      (others : Folds l (f.name :: seen) ms (change x) y) : Folds l seen (m :: ms) x y
  | foreign {seen : List String} {m : Member} {ms : List Member} {x y : ρ} {name : String}
      (named : m.name? = some name) (unknown : l.field? name = none)
      (others : Folds l seen ms x y) : Folds l seen (m :: ms) x y

/-- What a field is read with stops where the value ends. -/
def Definite (l : Layout ρ) : Prop := ∀ f ∈ l.fields, f.reader.Definite

theorem name_of_field? (found : l.field? name = some f) : f.name = name := by
  simpa using List.find?_some found

theorem mem_of_field? (found : l.field? name = some f) : f ∈ l.fields :=
  List.mem_of_find?_eq_some found

/-! ## One member -/

theorem nextKey_first (m : Member) (behind : Bytes) : nextKey true (m.text ++ behind) =
    .ok (true, m.key ++ (m.gap ++ Mark.colon :: (m.value.val ++ behind))) := by
  rw [Member.text_append, nextKey, skipSpace_append m.blankLead, skipSpace_of_not_isSpace rfl]
  rfl

theorem nextKey_next (blank : IsBlank lead) (m : Member) (behind : Bytes) :
    nextKey false (lead ++ Mark.comma :: (m.text ++ behind)) =
      .ok (true, m.key ++ (m.gap ++ Mark.colon :: (m.value.val ++ behind))) := by
  have skip : skipSpace (m.text ++ behind) =
      Mark.quote :: (m.key ++ (m.gap ++ Mark.colon :: (m.value.val ++ behind))) := by
    rw [Member.text_append, skipSpace_append m.blankLead, skipSpace_of_not_isSpace rfl]
  rw [nextKey, skipSpace_append blank, skipSpace_of_not_isSpace rfl]
  simp only [skip]
  rfl

theorem expectColon_append (blank : IsBlank lead) (s : Bytes) :
    expectColon (lead ++ Mark.colon :: s) = .ok s := by
  rw [expectColon, skipSpace_append blank, skipSpace_of_not_isSpace rfl]
  rfl

theorem readMember_known (found : l.field? f.name = some f) (fresh : f.name ∉ seen)
    (m : Member) (behind : Bytes) :
    l.readMember seen f.name (m.gap ++ Mark.colon :: (m.value.val ++ behind)) =
      (f.reader.run (m.value.val ++ behind)).map fun p => (p.1, f.name :: seen, p.2) := by
  rw [readMember, found]
  simp only [if_neg fresh, expectColon_append m.blankGap]

theorem readMember_foreign (seen : List String) (unknown : l.field? name = none) (m : Member)
    {behind : Bytes} (ends : Delimited behind) :
    l.readMember seen name (m.gap ++ Mark.colon :: (m.value.val ++ behind)) =
      .ok (id, seen, behind) := by
  rw [readMember, unknown]
  simp only [expectColon_append m.blankGap, skipValue_append m.value.property ends]
  rfl

/-! ## All members -/

theorem exists_of_readMembers_key {key : Bytes} (opens : nextKey first s = .ok (true, key))
    (h : l.readMembers seen first x s = .ok (y, r)) :
    ∃ name behind change seen' more, textBody key = .ok (name, behind) ∧
      l.readMember seen name behind = .ok (change, seen', more) ∧
      l.readMembers seen' false (change x) more = .ok (y, r) := by
  rw [readMembers] at h
  split at h
  · cases h
  · next closed => cases opens.symm.trans closed
  · next same =>
    cases opens.symm.trans same
    split at h
    · cases h
    · next named =>
      split at h
      · cases h
      · next member => exact ⟨_, _, _, _, _, named, member, h⟩

theorem exists_of_nextKey {key : Bytes} (h : nextKey first s = .ok (true, key)) :
    ∃ space, IsBlank space ∧ (first = true ∧ s = space ++ Mark.quote :: key ∨
      first = false ∧ ∃ lead, IsBlank lead ∧
        s = lead ++ Mark.comma :: (space ++ Mark.quote :: key)) := by
  unfold nextKey at h
  split at h
  · cases h
  · next skip =>
    obtain ⟨lead, blank, -, rfl⟩ := exists_of_skipSpace skip
    split at h
    · cases h
    · split at h
      · next isFirst =>
        split at h
        · next quote =>
          cases h
          exact ⟨lead, blank, .inl ⟨isFirst, by rw [quote]⟩⟩
        · cases h
      · next later =>
        split at h
        · next comma =>
          split at h
          · cases h
          · next skip' =>
            obtain ⟨space, blank', -, rfl⟩ := exists_of_skipSpace skip'
            split at h
            · next quote =>
              cases h
              exact ⟨space, blank', .inr ⟨by simpa using later, lead, blank, by rw [comma, quote]⟩⟩
            · split at h <;> cases h
        · cases h

theorem exists_of_nextKey_close (h : nextKey first s = .ok (false, r)) :
    ∃ pad, IsBlank pad ∧ s = pad ++ Mark.closeObject :: r := by
  unfold nextKey at h
  split at h
  · cases h
  · next skip =>
    obtain ⟨pad, blank, -, rfl⟩ := exists_of_skipSpace skip
    split at h
    · next closed =>
      cases h
      exact ⟨pad, blank, by rw [closed]⟩
    · split at h
      · split at h <;> cases h
      · split at h
        · split at h
          · cases h
          · split at h
            · cases h
            · split at h <;> cases h
        · cases h

theorem delimited_of_readMembers (h : l.readMembers seen false x s = .ok (y, r)) :
    Delimited s := by
  cases opens : nextKey false s with
  | error fault =>
      rw [readMembers] at h
      split at h
      · cases h
      · next other => cases opens.symm.trans other
      · next other => cases opens.symm.trans other
  | ok p =>
      obtain ⟨key, behind⟩ := p
      cases key with
      | false =>
          obtain ⟨pad, blank, rfl⟩ := exists_of_nextKey_close opens
          exact delimited_append blank (delimited_cons (by decide) _)
      | true =>
          obtain ⟨space, -, ⟨⟨⟩, -⟩ | ⟨-, lead, blank, rfl⟩⟩ := exists_of_nextKey opens
          exact delimited_append blank (delimited_cons (by decide) _)

/-! The first member of an object and a later one differ in what stands in front of the key only, so
one step is stated from behind the quote that opens the key. -/

section

variable {behind : Bytes} (inside : Inside .object Member.text false ms behind)
  (opens : nextKey first s =
    .ok (true, m.key ++ (m.gap ++ Mark.colon :: (m.value.val ++ (behind ++ rest)))))

include inside opens

/-- One member is read as it says, and the others behind it. -/
theorem readMembers_of_folds (folds : l.Folds seen (m :: ms) x y) :
    ∃ seen' x', l.Folds seen' ms x' y ∧
      l.readMembers seen first x s = l.readMembers seen' false x' (behind ++ rest) := by
  cases folds with
  | @known _ _ _ _ _ f change found named fresh takes others =>
      have read := readMember_known found fresh m (behind ++ rest)
      rw [takes] at read
      exact ⟨_, _, others, readMembers_member opens (Member.textBody_key named _) read⟩
  | foreign named unknown others =>
      have read := readMember_foreign seen unknown m
        (delimited_of_inside (inside.derives Member.derives) rest)
      exact ⟨_, _, others, readMembers_member opens (Member.textBody_key named _) read⟩

/-- What has been read starts with what the first member says. -/
theorem folds_of_member (definite : l.Definite)
    (read : l.readMembers seen first x s = .ok (y, r)) :
    ∃ seen' x', l.readMembers seen' false x' (behind ++ rest) = .ok (y, r) ∧
      (l.Folds seen' ms x' y → l.Folds seen (m :: ms) x y) := by
  have ends := delimited_of_inside (inside.derives Member.derives) rest
  obtain ⟨name, more, change, seen', tail, key, member, others⟩ :=
    exists_of_readMembers_key opens read
  obtain ⟨rfl, named⟩ := Member.name?_of_textBody key
  obtain ⟨behind', passed, ⟨f, found, fresh, value, rfl⟩ | ⟨unknown, skipped, rfl, rfl⟩⟩ :=
    readMember_cases member
  · cases (expectColon_append m.blankGap _).symm.trans passed
    obtain rfl := name_of_field? found
    obtain ⟨rfl, takes⟩ := (definite f (mem_of_field? found)).takes m.value.property ends
      (delimited_of_readMembers others) value
    exact ⟨_, _, others, .known found named fresh takes⟩
  · cases (expectColon_append m.blankGap _).symm.trans passed
    cases (skipValue_append m.value.property ends).symm.trans skipped
    exact ⟨_, _, others, .foreign named unknown⟩

end

theorem nextKey_pad {pad : Bytes} (blank : IsBlank pad) (first : Bool) (rest : Bytes) :
    nextKey first (pad ++ [Frame.object.closing] ++ rest) = .ok (false, rest) := by
  rw [nextKey, skipSpace_close .object blank]
  rfl

/-- The members of an object are read one after the other. -/
theorem readMembers_inside (h : Inside .object Member.text first ms s) (folds : l.Folds seen ms x y)
    (rest : Bytes) : l.readMembers seen first x (s ++ rest) = .ok (y, rest) := by
  induction h generalizing seen x with
  | close blank =>
      cases folds
      exact readMembers_of_close (nextKey_pad blank _ rest)
  | @first m ms behind inside ih =>
      rw [List.append_assoc]
      obtain ⟨seen', x', others, same⟩ := readMembers_of_folds inside (nextKey_first m _) folds
      exact same.trans (ih others)
  | @next lead m ms behind blank inside ih =>
      rw [List.append_assoc, List.cons_append, List.append_assoc]
      obtain ⟨seen', x', others, same⟩ :=
        readMembers_of_folds inside (nextKey_next blank m _) folds
      exact same.trans (ih others)

/-- Nothing changes the record but what the members say. -/
theorem folds_of_readMembers (definite : l.Definite) (h : Inside .object Member.text first ms s)
    (read : l.readMembers seen first x (s ++ rest) = .ok (y, r)) : l.Folds seen ms x y := by
  induction h generalizing seen x with
  | close blank =>
      cases (readMembers_of_close (nextKey_pad blank _ rest)).symm.trans read
      exact .nil
  | @first m ms behind inside ih =>
      rw [List.append_assoc] at read
      obtain ⟨seen', x', others, folds⟩ :=
        folds_of_member inside (nextKey_first m _) definite read
      exact folds (ih others)
  | @next lead m ms behind blank inside ih =>
      rw [List.append_assoc, List.cons_append, List.append_assoc] at read
      obtain ⟨seen', x', others, folds⟩ :=
        folds_of_member inside (nextKey_next blank m _) definite read
      exact folds (ih others)

theorem exists_of_expectColon {behind : Bytes} (h : expectColon s = .ok behind) :
    ∃ gap, IsBlank gap ∧ s = gap ++ Mark.colon :: behind := by
  unfold expectColon at h
  split at h
  · cases h
  · next skip =>
    obtain ⟨gap, blank, -, rfl⟩ := exists_of_skipSpace skip
    split at h
    · next same =>
      cases h
      exact ⟨gap, blank, by rw [same]⟩
    · cases h

/-- Behind the name of a member there is a value, even if nobody looks at it. -/
theorem exists_of_readMember {change : ρ → ρ} {seen' : List String} (definite : l.Definite)
    (h : l.readMember seen name s = .ok (change, seen', r)) :
    ∃ gap v, IsBlank gap ∧ IsValue v ∧ s = gap ++ Mark.colon :: (v ++ r) := by
  obtain ⟨behind, passed, ⟨f, found, -, read, -⟩ | ⟨-, skipped, -, -⟩⟩ := readMember_cases h
  · obtain ⟨gap, blank, rfl⟩ := exists_of_expectColon passed
    obtain ⟨v, value, rfl, -⟩ := definite f (mem_of_field? found) _ _ _ read
    exact ⟨gap, v, blank, value, rfl⟩
  · obtain ⟨gap, blank, rfl⟩ := exists_of_expectColon passed
    obtain ⟨v, value, rfl⟩ := exists_of_skipValue skipped
    exact ⟨gap, v, blank, value, rfl⟩

/-- Whatever is read as an object consists of members. -/
theorem exists_of_readMembers (definite : l.Definite)
    (h : l.readMembers seen first x s = .ok (y, r)) :
    ∃ ms t, Inside .object Member.text first ms t ∧ s = t ++ r := by
  fun_induction l.readMembers seen first x s with
  | case1 => cases h
  | case2 seen first x s r closed =>
      cases h
      obtain ⟨pad, blank, rfl⟩ := exists_of_nextKey_close closed
      exact ⟨[], pad ++ [Frame.object.closing], .close blank, by rw [List.append_assoc]; rfl⟩
  | case3 => cases h
  | case4 => cases h
  | case5 seen first x s key opens _ name behind named _ change seen' more member _ ih =>
      obtain ⟨ms, t, inside, rfl⟩ := ih h
      obtain ⟨gap, v, blankGap, value, rfl⟩ := exists_of_readMember definite member
      obtain ⟨text, isText, rfl, -⟩ := exists_of_textBody named
      obtain ⟨space, blank, ⟨rfl, rfl⟩ | ⟨rfl, lead, blank', rfl⟩⟩ := exists_of_nextKey opens
      · refine ⟨⟨space, text, gap, ⟨v, value⟩, blank, isText, blankGap⟩ :: ms, _, .first inside, ?_⟩
        simp only [Member.text, List.append_assoc, List.cons_append]
      · refine ⟨⟨space, text, gap, ⟨v, value⟩, blank, isText, blankGap⟩ :: ms, _,
          .next blank' inside, ?_⟩
        simp only [Member.text, List.append_assoc, List.cons_append]

/-! ## Objects -/

theorem read_object (blank : IsBlank lead) (s : Bytes) :
    l.reader.run (lead ++ Mark.openObject :: s) = l.readMembers [] true l.blank s := by
  change l.read _ = _
  rw [read, skipSpace_append blank, skipSpace_of_not_isSpace rfl]
  exact if_pos rfl

/-- A record is taken from an object as its members say. -/
theorem takes_object_iff (definite : l.Definite) (h : IsObject ms s) :
    l.reader.Takes s y ↔ l.Folds [] ms l.blank y := by
  obtain ⟨lead, inner, blank, inside, rfl⟩ := h
  constructor
  · intro takes
    have read := takes []
    rw [List.append_assoc, List.cons_append, read_object blank] at read
    exact folds_of_readMembers definite inside read
  · intro folds rest
    rw [List.append_assoc, List.cons_append, read_object blank]
    exact readMembers_inside inside folds rest

/-! ## Records in a list -/

theorem readPositions_close {fs : List (Field ρ)} (blank : IsBlank lead) (rest : Bytes) :
    readPositions fs first x (lead ++ [Frame.list.closing] ++ rest) = .ok (x, rest) := by
  have skip := skipSpace_close .list blank rest
  cases fs with
  | nil =>
      rw [readPositions, closeList, skip]
      rfl
  | cons =>
      rw [readPositions, skip]
      exact if_pos rfl

/-- The value of the next field, in front or behind a comma. -/
theorem readPositions_value {fs : List (Field ρ)} {v behind : Bytes} {change : ρ → ρ}
    (value : IsValue v) (takes : f.reader.Takes v change)
    (others : readPositions fs false (change x) behind = .ok (y, rest)) :
    readPositions (f :: fs) true x (v ++ behind) = .ok (y, rest) ∧
      ∀ lead, IsBlank lead →
        readPositions (f :: fs) false x (lead ++ Mark.comma :: (v ++ behind)) = .ok (y, rest) := by
  obtain ⟨b, more, ⟨-, -, item, -⟩, skip⟩ := value.opens
  have skip := skip behind
  have read := takes behind
  refine ⟨?_, fun lead blank => ?_⟩
  · rw [readPositions, skip]
    simp only [if_neg item, if_pos, read, others]
  · rw [readPositions, skipSpace_append blank, skipSpace_of_not_isSpace rfl]
    simp only [if_neg (show Mark.comma ≠ Mark.closeList by decide), if_neg Bool.false_ne_true,
      if_pos, skip, if_neg item, read, others]

theorem exists_of_close {fs : List (Field ρ)} (skip : skipSpace s = Mark.closeList :: r) :
    ∃ t, Derives (.inside .list first) t ∧ s = t ++ r ∧
      ∀ rest, readPositions fs first x (t ++ rest) = .ok (x, rest) := by
  obtain ⟨lead, blank, -, rfl⟩ := exists_of_skipSpace skip
  exact ⟨lead ++ [Frame.list.closing], .close blank, by rw [List.append_assoc]; rfl,
    readPositions_close blank⟩

theorem skipSpace_of_closeList (h : closeList s = .ok r) : skipSpace s = Mark.closeList :: r := by
  unfold closeList at h
  split at h
  · cases h
  · next skip =>
    split at h
    · next closed =>
      cases h
      rw [skip, closed]
    · split at h <;> cases h

/-- A list of the values of the fields is read the same whatever stands behind it. -/
theorem exists_of_readPositions {fs : List (Field ρ)} (definite : ∀ f ∈ fs, f.reader.Definite)
    (h : readPositions fs first x s = .ok (y, r)) :
    ∃ t, Derives (.inside .list first) t ∧ s = t ++ r ∧
      ∀ rest, readPositions fs first x (t ++ rest) = .ok (y, rest) := by
  induction fs generalizing first x s with
  | nil =>
      rw [readPositions] at h
      cases closed : closeList s with
      | error fault =>
          rw [closed] at h
          cases h
      | ok behind =>
          rw [closed] at h
          cases h
          exact exists_of_close (skipSpace_of_closeList closed)
  | cons f fs ih =>
      obtain ⟨here, others⟩ := List.forall_mem_cons.mp definite
      rcases readPositions_cases h with ⟨closed, rfl⟩ | ⟨t, change, behind, start, read, more⟩
      · exact exists_of_close closed
      obtain ⟨v, isValue, rfl, takes⟩ := here _ _ _ read
      obtain ⟨t, derives, rfl, again⟩ := ih others more
      have entry := derives_value ⟨v, isValue⟩
      rcases start with ⟨rfl, rfl⟩ | ⟨rfl, skip⟩
      · refine ⟨v ++ t, .first entry derives, by simp, fun rest => ?_⟩
        rw [List.append_assoc]
        exact (readPositions_value isValue takes (again rest)).1
      · obtain ⟨lead, blank, -, rfl⟩ := exists_of_skipSpace skip
        refine ⟨lead ++ Mark.comma :: (v ++ t), .next blank entry derives, by simp, fun rest => ?_⟩
        rw [List.append_assoc, List.cons_append, List.append_assoc]
        exact (readPositions_value isValue takes (again rest)).2 lead blank

/-- A record is read the same whatever stands behind it, as an object and as a list. -/
theorem Definite.reader (definite : l.Definite) : l.reader.Definite := by
  intro s y r h
  change l.read s = _ at h
  unfold read at h
  split at h
  · cases h
  · next skip =>
    split at h
    · next opened =>
      subst opened
      obtain ⟨lead, blank, -, rfl⟩ := exists_of_skipSpace skip
      obtain ⟨ms, inner, inside, rfl⟩ := exists_of_readMembers definite h
      have object : IsObject ms (lead ++ Mark.openObject :: inner) :=
        ⟨lead, inner, blank, inside, rfl⟩
      exact ⟨_, object.isValue, by simp, (takes_object_iff definite object).mpr
        (folds_of_readMembers definite inside h)⟩
    · split at h
      · next opened =>
        subst opened
        obtain ⟨lead, blank, -, rfl⟩ := exists_of_skipSpace skip
        obtain ⟨inner, derives, rfl, again⟩ := exists_of_readPositions definite h
        refine ⟨_, ⟨lead, _, blank, .nested derives, rfl⟩, by simp [Frame.opener], fun rest => ?_⟩
        change l.read _ = _
        rw [List.append_assoc, List.cons_append, read, skipSpace_append blank,
          skipSpace_of_not_isSpace rfl]
        exact again rest
      · cases h

end Layout

end Enrollment.Json
