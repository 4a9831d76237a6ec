import Enrollment.Proofs.Json.Lexical

/-!
# Passing over a value follows the grammar

A value that nobody looks at is passed over with a stack of the lists and objects that are open.
It is passed over to its end and no further, however deep it is: what has been passed over is a
value, by strong induction on the length of the text, and any value is passed over, by induction
on its derivation. Both are said of the three places where the scanner can stand, at a value, at
an entry and between two entries, with any frames around them.
-/

namespace Enrollment.Json

variable {s r rest lead : Bytes} {b : UInt8}

/-! ## Words, numbers and texts -/

/-- The values that are neither lists nor objects, from their first byte on. -/
theorem exists_of_leaf (h : Leaves.lenient.leaf b s = .ok r) :
    ∃ v, Derives .value (b :: v) ∧ s = v ++ r := by
  unfold Leaves.leaf at h
  split at h
  · next same => exact same ▸ ⟨_, .word (by simp [words]), eq_of_expectWord h⟩
  split at h
  · next same => exact same ▸ ⟨_, .word (by simp [words]), eq_of_expectWord h⟩
  split at h
  · next same => exact same ▸ ⟨_, .word (by simp [words]), eq_of_expectWord h⟩
  split at h
  · next same =>
    have h : skipUnsigned s = .ok r := h
    obtain ⟨number, unsigned, split⟩ := exists_of_skipUnsigned h
    exact same ▸ ⟨number, .negative unsigned, split⟩
  split at h
  · next digit =>
    have h : skipUnsigned (b :: s) = .ok r := h
    obtain ⟨number, unsigned, split⟩ := exists_of_skipUnsigned h
    obtain ⟨d, more, rfl, -⟩ := unsigned.opens
    obtain ⟨rfl, rfl⟩ := List.cons.inj split
    exact ⟨more, .number unsigned, rfl⟩
  split at h
  · next same =>
    have h : skipText s = .ok r := h
    obtain ⟨t, text, split⟩ := exists_of_skipText h
    exact same ▸ ⟨t, .text text, split⟩
  · cases h

/-- A value does not start with white space, nor as a list or an object goes on or ends. -/
def Opens (b : UInt8) : Prop :=
  isSpace b = false ∧ b ≠ Mark.comma ∧ b ≠ Mark.closeList ∧ b ≠ Mark.closeObject

theorem opens_of_isDigit (h : isDigit b = true) : Opens b := by
  refine ⟨?_, ?_, ?_, ?_⟩
  · simp only [isDigit, Bool.and_eq_true, decide_eq_true_eq] at h
    simp only [isSpace, Bool.or_eq_false_iff, decide_eq_false_iff_not]
    refine ⟨⟨⟨?_, ?_⟩, ?_⟩, ?_⟩
    all_goals
      rintro rfl
      exact absurd h (by decide)
  all_goals
    rintro rfl
    exact absurd h (by decide)

theorem Derives.opens {v : Bytes} (h : Derives .value v) : ∃ b more, v = b :: more ∧ Opens b := by
  cases h with
  | word member =>
      simp only [words, List.mem_cons, List.not_mem_nil, or_false] at member
      rcases member with rfl | rfl | rfl
      · exact ⟨_, _, rfl, by decide, by decide, by decide, by decide⟩
      · exact ⟨_, _, rfl, by decide, by decide, by decide, by decide⟩
      · exact ⟨_, _, rfl, by decide, by decide, by decide, by decide⟩
  | number unsigned =>
      obtain ⟨d, more, rfl, digit⟩ := unsigned.opens
      exact ⟨d, more, rfl, opens_of_isDigit digit⟩
  | negative => exact ⟨_, _, rfl, by decide, by decide, by decide, by decide⟩
  | text => exact ⟨_, _, rfl, by decide, by decide, by decide, by decide⟩
  | @nested frame =>
      cases frame
      · exact ⟨_, _, rfl, by decide, by decide, by decide, by decide⟩
      · exact ⟨_, _, rfl, by decide, by decide, by decide, by decide⟩

theorem isBlank_append {lead' : Bytes} (blank : IsBlank lead) (blank' : IsBlank lead') :
    IsBlank (lead ++ lead') := fun b inside => (List.mem_append.mp inside).elim (blank b) (blank' b)

theorem IsValue.append {v : Bytes} (value : IsValue v) (blank : IsBlank lead) :
    IsValue (lead ++ v) := by
  obtain ⟨lead', v, blank', derives, rfl⟩ := value
  exact ⟨_, v, isBlank_append blank blank', derives, (List.append_assoc _ _ _).symm⟩

theorem IsValue.opens {v : Bytes} (value : IsValue v) :
    ∃ b more, Opens b ∧ ∀ rest, skipSpace (v ++ rest) = b :: (more ++ rest) := by
  obtain ⟨lead, v, blank, derives, rfl⟩ := value
  obtain ⟨b, more, rfl, opens⟩ := derives.opens
  refine ⟨b, more, opens, fun rest => ?_⟩
  rw [List.append_assoc, skipSpace_append blank, List.cons_append, skipSpace_of_not_isSpace opens.1]

theorem IsValue.ne_nil {v : Bytes} (value : IsValue v) : v ≠ [] := by
  rintro rfl
  obtain ⟨b, more, -, skip⟩ := value.opens
  cases skip []

/-! ## Frames -/

/-- Passes over what is left of the open frames when a value has been passed over. -/
def resume (frames : List Frame) (s : Bytes) : Except Fault Bytes :=
  match frames with
  | [] => .ok s
  | frame :: frames => Leaves.lenient.member frame false frames s

section

variable {frame : Frame} {frames : List Frame} {first : Bool}

theorem value_eq (skip : skipSpace s = b :: r) :
    Leaves.lenient.value frames s =
      match Frame.opening b with
      | some frame => Leaves.lenient.member frame true frames r
      | none => Leaves.lenient.leaf b r >>= resume frames := by
  rw [Leaves.value]
  split
  · next ended => cases skip.symm.trans ended
  · next same =>
    cases skip.symm.trans same
    cases Frame.opening b with
    | some frame => rfl
    | none =>
        dsimp only
        split
        · next failed => rw [failed]; rfl
        · next passed =>
          rw [passed]
          cases frames <;> rfl

theorem member_eq (skip : skipSpace s = b :: r) :
    Leaves.lenient.member frame first frames s =
      if b = frame.closing then resume frames r
      else if first then Leaves.lenient.keyed frame frames s
      else if b = Mark.comma then Leaves.lenient.keyed frame frames r
      else .error frame.unseparated := by
  rw [Leaves.member]
  split
  · next ended => cases skip.symm.trans ended
  · next same =>
    cases skip.symm.trans same
    cases frames <;> rfl

theorem keyed_list : Leaves.lenient.keyed .list frames s =
    Leaves.lenient.value (.list :: frames) s := by
  rw [Leaves.keyed]

theorem keyed_object {key behind : Bytes} (opened : skipSpace s = Mark.quote :: key)
    (named : skipText key = .ok r) (colon : skipSpace r = Mark.colon :: behind) :
    Leaves.lenient.keyed .object frames s = Leaves.lenient.value (.object :: frames) behind := by
  have named : Leaves.lenient.text key = .ok r := named
  rw [Leaves.keyed]
  split
  · next ended => cases opened.symm.trans ended
  · next same =>
    cases opened.symm.trans same
    rw [if_neg fun other => other rfl]
    split
    · next failed => cases named.symm.trans failed
    · next same =>
      cases named.symm.trans same
      split
      · next ended => cases colon.symm.trans ended
      · next same =>
        cases colon.symm.trans same
        exact if_neg fun other => other rfl

theorem exists_of_keyed_object (h : Leaves.lenient.keyed .object frames s = .ok rest) :
    ∃ key r behind, skipSpace s = Mark.quote :: key ∧ skipText key = .ok r ∧
      skipSpace r = Mark.colon :: behind ∧
      Leaves.lenient.value (.object :: frames) behind = .ok rest := by
  rw [Leaves.keyed] at h
  split at h
  · cases h
  · next opened =>
    split at h
    · cases h
    · next quote =>
      cases not_not.mp quote
      split at h
      · cases h
      · next named =>
        split at h
        · cases h
        · next behind =>
          split at h
          · cases h
          · next colon =>
            cases not_not.mp colon
            exact ⟨_, _, _, opened, named, behind, h⟩

end

/-! ## What is passed over is a value -/

section

variable {frame : Frame} {frames : List Frame} {first : Bool}

theorem frame_of_opening (h : Frame.opening b = some frame) : b = frame.opener := by
  unfold Frame.opening at h
  split at h
  · next same =>
    cases h
    exact same
  · split at h
    · next same =>
      cases h
      exact same
    · cases h

theorem ne_nil_of_entry {e : Bytes} (h : Derives (.entry frame) e) : e ≠ [] := by
  cases h with
  | item _ value =>
      obtain ⟨b, more, rfl, -⟩ := value.opens
      simp
  | member => simp

theorem exists_skipSpace_of_value (h : Leaves.lenient.value frames s = .ok rest) :
    ∃ b r, skipSpace s = b :: r := by
  rw [Leaves.value] at h
  split at h
  · cases h
  · next skip => exact ⟨_, _, skip⟩

theorem exists_skipSpace_of_member (h : Leaves.lenient.member frame first frames s = .ok rest) :
    ∃ b r, skipSpace s = b :: r := by
  rw [Leaves.member] at h
  split at h
  · cases h
  · next skip => exact ⟨_, _, skip⟩

/-- What is passed over in texts of at most `n` bytes: from a value on it is the value and what is
left of the open frames, from an entry on the entry, and from between two entries all that is left
of their frame. -/
structure Divides (n : Nat) : Prop where
  value : ∀ frames s rest, s.length ≤ n → Leaves.lenient.value frames s = .ok rest →
    ∃ v behind, IsValue v ∧ s = v ++ behind ∧ resume frames behind = .ok rest
  entry : ∀ frame frames s rest, s.length ≤ n → Leaves.lenient.keyed frame frames s = .ok rest →
    ∃ e behind, Derives (.entry frame) e ∧ s = e ++ behind ∧
      Leaves.lenient.member frame false frames behind = .ok rest
  inside : ∀ frame first frames s rest, s.length ≤ n →
    Leaves.lenient.member frame first frames s = .ok rest →
    ∃ v behind, Derives (.inside frame first) v ∧ s = v ++ behind ∧
      resume frames behind = .ok rest

section

variable {n : Nat} (shorter : ∀ m, m < n → Divides m)

include shorter

/-- A list or an object goes on with a shorter text behind its bracket. -/
theorem exists_of_value (short : s.length ≤ n) (h : Leaves.lenient.value frames s = .ok rest) :
    ∃ v behind, IsValue v ∧ s = v ++ behind ∧ resume frames behind = .ok rest := by
  obtain ⟨b, r, skip⟩ := exists_skipSpace_of_value h
  have less := length_lt_of_skipSpace skip
  rw [value_eq skip] at h
  obtain ⟨lead, blank, -, rfl⟩ := exists_of_skipSpace skip
  cases opens : Frame.opening b with
  | some frame =>
      rw [opens] at h
      obtain ⟨inner, behind, derives, rfl, resumes⟩ :=
        (shorter r.length (by omega)).inside _ _ _ _ _ (Nat.le_refl _) h
      cases frame_of_opening opens
      exact ⟨_, behind, ⟨lead, _, blank, .nested derives, rfl⟩, by simp, resumes⟩
  | none =>
      rw [opens] at h
      cases passed : Leaves.lenient.leaf b r with
      | error e =>
          rw [passed] at h
          cases h
      | ok behind =>
          rw [passed] at h
          obtain ⟨v, derives, rfl⟩ := exists_of_leaf passed
          exact ⟨_, behind, ⟨lead, _, blank, derives, rfl⟩, by simp, h⟩

/-- The value of a member stands in a shorter text behind its key. -/
theorem exists_of_keyed (short : s.length ≤ n)
    (h : Leaves.lenient.keyed frame frames s = .ok rest) :
    ∃ e behind, Derives (.entry frame) e ∧ s = e ++ behind ∧
      Leaves.lenient.member frame false frames behind = .ok rest := by
  cases frame with
  | list =>
      rw [keyed_list] at h
      obtain ⟨_, behind, ⟨lead, v, blank, derives, rfl⟩, rfl, resumes⟩ :=
        exists_of_value shorter short h
      exact ⟨_, behind, .item blank derives, rfl, resumes⟩
  | object =>
      obtain ⟨key, r, inner, opened, named, colon, within⟩ := exists_of_keyed_object h
      have less := length_lt_of_skipSpace opened
      obtain ⟨lead, blank, -, rfl⟩ := exists_of_skipSpace opened
      obtain ⟨text, isText, rfl⟩ := exists_of_skipText named
      have less' := length_lt_of_skipSpace colon
      obtain ⟨gap, before, -, rfl⟩ := exists_of_skipSpace colon
      simp only [List.length_append, List.length_cons] at less less' short
      obtain ⟨_, behind, ⟨space, v, after, derives, rfl⟩, rfl, resumes⟩ :=
        (shorter inner.length (by omega)).value _ _ _ (Nat.le_refl _) within
      exact ⟨_, behind, .member blank isText before after derives, by simp, resumes⟩

/-- The entries that are left stand in a shorter text behind the first one. -/
theorem exists_of_others {e behind : Bytes} (short : (e ++ behind).length ≤ n)
    (entry : Derives (.entry frame) e)
    (h : Leaves.lenient.member frame false frames behind = .ok rest) :
    ∃ more tail, Derives (.inside frame false) more ∧ behind = more ++ tail ∧
      resume frames tail = .ok rest := by
  have some := List.length_pos_iff.mpr (ne_nil_of_entry entry)
  rw [List.length_append] at short
  exact (shorter behind.length (by omega)).inside _ _ _ _ _ (Nat.le_refl _) h

theorem exists_of_member (short : s.length ≤ n)
    (h : Leaves.lenient.member frame first frames s = .ok rest) :
    ∃ v behind, Derives (.inside frame first) v ∧ s = v ++ behind ∧
      resume frames behind = .ok rest := by
  obtain ⟨b, r, skip⟩ := exists_skipSpace_of_member h
  rw [member_eq skip] at h
  split at h
  · next closing =>
    subst closing
    obtain ⟨lead, blank, -, rfl⟩ := exists_of_skipSpace skip
    exact ⟨_, r, .close blank, by simp, h⟩
  split at h
  · next isFirst =>
    subst isFirst
    obtain ⟨e, behind, entry, rfl, goesOn⟩ := exists_of_keyed shorter short h
    obtain ⟨more, tail, others, rfl, resumes⟩ := exists_of_others shorter short entry goesOn
    exact ⟨_, tail, .first entry others, by simp, resumes⟩
  split at h
  · next later comma =>
    subst comma
    obtain rfl : first = false := by simpa using later
    have less := length_lt_of_skipSpace skip
    obtain ⟨lead, blank, -, rfl⟩ := exists_of_skipSpace skip
    obtain ⟨e, behind, entry, rfl, goesOn⟩ := exists_of_keyed shorter (by omega) h
    obtain ⟨more, tail, others, rfl, resumes⟩ := exists_of_others shorter (by omega) entry goesOn
    exact ⟨_, tail, .next blank entry others, by simp, resumes⟩
  · cases h

end

theorem divides (n : Nat) : Divides n := by
  induction n using Nat.strongRecOn with
  | ind n shorter =>
    constructor
    case value => exact fun _ _ _ => exists_of_value shorter
    case entry => exact fun _ _ _ _ => exists_of_keyed shorter
    case inside => exact fun _ _ _ _ _ => exists_of_member shorter

theorem exists_of_skipValue (h : skipValue s = .ok r) : ∃ v, IsValue v ∧ s = v ++ r := by
  obtain ⟨v, behind, value, split, same⟩ := (divides s.length).value _ _ _ (Nat.le_refl _) h
  cases same
  exact ⟨v, value, split⟩

end

/-! ## Every value is passed over -/

theorem delimited_cons (ends : isDigit b = false ∧ b ≠ Mark.point ∧ isExponentLetter b = false)
    (s : Bytes) : Delimited (b :: s) := by
  intro c head
  cases head
  exact ends

theorem delimited_of_isSpace (h : isSpace b = true) (s : Bytes) : Delimited (b :: s) := by
  simp only [isSpace, Bool.or_eq_true, decide_eq_true_eq] at h
  rcases h with ((rfl | rfl) | rfl) | rfl <;> exact delimited_cons (by decide) s

/-- White space cannot continue a number either. -/
theorem delimited_append (blank : IsBlank lead) (ends : Delimited s) : Delimited (lead ++ s) := by
  cases lead with
  | nil => exact ends
  | cons b lead => exact delimited_of_isSpace (blank b List.mem_cons_self) _

theorem delimited_of_isBlank (blank : IsBlank s) : Delimited s := by
  rw [← List.append_nil s]
  exact delimited_append blank delimited_nil

/-- What stands behind an entry cannot continue a number. -/
theorem delimited_of_inside {frame : Frame} {more : Bytes} (h : Derives (.inside frame false) more)
    (rest : Bytes) : Delimited (more ++ rest) := by
  cases h with
  | close blank =>
      rw [List.append_assoc]
      refine delimited_append blank (delimited_cons ?_ _)
      cases frame <;> decide
  | next blank =>
      rw [List.append_assoc]
      exact delimited_append blank (delimited_cons (by decide) _)

/-- The first entry of a list or an object is not taken for its end. -/
theorem Derives.opens_entry {frame : Frame} {e : Bytes} (h : Derives (.entry frame) e)
    (rest : Bytes) : ∃ b r, skipSpace (e ++ rest) = b :: r ∧ b ≠ frame.closing := by
  cases h with
  | item blank value =>
      obtain ⟨b, more, rfl, solid, -, open', -⟩ := value.opens
      exact ⟨b, more ++ rest, by rw [List.append_assoc, skipSpace_append blank, List.cons_append,
        skipSpace_of_not_isSpace solid], open'⟩
  | member blank =>
      exact ⟨Mark.quote, _, by rw [List.append_assoc, skipSpace_append blank]; rfl, by decide⟩

theorem leaf_of_isDigit (h : isDigit b = true) :
    Frame.opening b = none ∧ Leaves.lenient.leaf b s = skipUnsigned (b :: s) := by
  have other {c : UInt8} (c' : isDigit c = false) : b ≠ c := by
    rintro rfl
    cases h.symm.trans c'
  constructor
  · rw [Frame.opening, if_neg (other (by decide)), if_neg (other (by decide))]
  · rw [Leaves.leaf, if_neg (other (by decide)), if_neg (other (by decide)),
      if_neg (other (by decide)), if_neg (other (by decide)), if_pos h]
    rfl

/-- What is passed over when it is derived. -/
def Passes : Symbol → Bytes → Prop
  | .value, v => ∀ frames lead rest, IsBlank lead → Delimited rest →
      Leaves.lenient.value frames (lead ++ (v ++ rest)) = resume frames rest
  | .entry frame, e => ∀ frames rest, Delimited rest →
      Leaves.lenient.keyed frame frames (e ++ rest) =
        Leaves.lenient.member frame false frames rest
  | .inside frame first, v => ∀ frames rest,
      Leaves.lenient.member frame first frames (v ++ rest) = resume frames rest

/-- A value without brackets is passed over by the scanner that its first byte calls for. -/
theorem value_of_leaf {more : Bytes} {frames : List Frame} (blank : IsBlank lead)
    (solid : isSpace b = false) (opens : Frame.opening b = none)
    (passed : Leaves.lenient.leaf b (more ++ rest) = .ok rest) :
    Leaves.lenient.value frames (lead ++ (b :: more ++ rest)) = resume frames rest := by
  have skip : skipSpace (lead ++ (b :: more ++ rest)) = b :: (more ++ rest) := by
    rw [skipSpace_append blank, List.cons_append, skipSpace_of_not_isSpace solid]
  rw [value_eq skip, opens]
  dsimp only
  rw [passed]
  rfl

theorem Derives.passes {symbol : Symbol} {v : Bytes} (h : Derives symbol v) : Passes symbol v := by
  induction h with
  | word member =>
      intro frames lead rest blank ends
      simp only [words, List.mem_cons, List.not_mem_nil, or_false] at member
      rcases member with rfl | rfl | rfl
      · exact value_of_leaf blank (by decide) (by decide) (expectWord_append _ _)
      · exact value_of_leaf blank (by decide) (by decide) (expectWord_append _ _)
      · exact value_of_leaf blank (by decide) (by decide) (expectWord_append _ _)
  | number unsigned =>
      intro frames lead rest blank ends
      obtain ⟨d, more, rfl, digit⟩ := unsigned.opens
      obtain ⟨opens, passes⟩ := leaf_of_isDigit digit
      exact value_of_leaf blank (opens_of_isDigit digit).1 opens
        (passes.trans (skipUnsigned_append unsigned ends))
  | negative unsigned =>
      intro frames lead rest blank ends
      exact value_of_leaf blank (by decide) (by decide) (skipUnsigned_append unsigned ends)
  | text text =>
      intro frames lead rest blank ends
      exact value_of_leaf blank (by decide) (by decide) (skipText_append text rest)
  | @nested frame s inner ih =>
      intro frames lead rest blank ends
      have skip : skipSpace (lead ++ (frame.opener :: s ++ rest)) = frame.opener :: (s ++ rest) := by
        rw [skipSpace_append blank, List.cons_append, skipSpace_of_not_isSpace]
        cases frame <;> decide
      have opens : Frame.opening frame.opener = some frame := by cases frame <;> decide
      rw [value_eq skip, opens]
      exact ih frames rest
  | item blank value ih =>
      intro frames rest ends
      rw [keyed_list, List.append_assoc]
      exact ih _ _ _ blank ends
  | @member lead key gap space v blank name before behind value ih =>
      intro frames rest ends
      have opened : skipSpace (lead ++ Mark.quote :: (key ++ (gap ++ Mark.colon :: (space ++ v))) ++
          rest) = Mark.quote :: (key ++ (gap ++ Mark.colon :: (space ++ (v ++ rest)))) := by
        simp only [List.append_assoc, List.cons_append]
        rw [skipSpace_append blank]
        rfl
      have colon : skipSpace (gap ++ Mark.colon :: (space ++ (v ++ rest))) =
          Mark.colon :: (space ++ (v ++ rest)) := by
        rw [skipSpace_append before]
        rfl
      rw [keyed_object opened (skipText_append name _) colon]
      exact ih _ _ _ behind ends
  | @close frame first lead blank =>
      intro frames rest
      have skip : skipSpace (lead ++ [frame.closing] ++ rest) = frame.closing :: rest := by
        rw [List.append_assoc, skipSpace_append blank, List.singleton_append,
          skipSpace_of_not_isSpace]
        cases frame <;> decide
      rw [member_eq skip, if_pos rfl]
  | first entry others ihe iho =>
      intro frames rest
      obtain ⟨b, r, skip, other⟩ := entry.opens_entry (_ ++ rest)
      rw [List.append_assoc, member_eq skip, if_neg other, if_pos rfl,
        ihe frames _ (delimited_of_inside others rest)]
      exact iho frames rest
  | @next frame lead e more blank entry others ihe iho =>
      intro frames rest
      have skip : skipSpace (lead ++ Mark.comma :: (e ++ more) ++ rest) =
          Mark.comma :: (e ++ (more ++ rest)) := by
        rw [List.append_assoc, skipSpace_append blank, List.cons_append, List.append_assoc]
        rfl
      have goesOn : Mark.comma ≠ frame.closing := by cases frame <;> decide
      rw [member_eq skip, if_neg goesOn, if_neg Bool.false_ne_true, if_pos rfl,
        ihe frames _ (delimited_of_inside others rest)]
      exact iho frames rest

/-- Any value is passed over, to its end and no further. -/
theorem skipValue_append {v : Bytes} (h : IsValue v) (ends : Delimited rest) :
    skipValue (v ++ rest) = .ok rest := by
  obtain ⟨lead, v, blank, derives, rfl⟩ := h
  rw [List.append_assoc]
  exact derives.passes [] lead rest blank ends

end Enrollment.Json
