import Enrollment.Json.Layout
import Enrollment.Proofs.Json.Skipping

/-!
# Readers that know where their value ends

A definite reader takes a value of the grammar off the front of a text and would take the same
from it whatever stood behind. So it stops where the scanner stops that passes over values, and
the two can stand in for each other: what stands in a text decides how it is divided, and not
who reads it.
-/

namespace Enrollment.Json

variable {s r rest v : Bytes}

/-! ## Texts -/

/-- Four digits have the same value whatever stands behind them. -/
theorem exists_value_of_fourDigits {n : Nat} (h : fourDigits s = .ok (n, r)) :
    ∃ digits : Bytes, IsEscape (Mark.letter 'u' :: digits) ∧ s = digits ++ r ∧
      ∀ rest, fourDigits (digits ++ rest) = .ok (n, rest) := by
  obtain ⟨digits, four, hex, rfl⟩ := exists_of_fourDigits h
  obtain ⟨m, read⟩ := fourDigits_append four hex
  cases h.symm.trans (read r)
  exact ⟨digits, .number four hex, rfl, read⟩

theorem exists_of_lowHalf {high : Nat} {c : Char} (h : lowHalf high s = .ok (c, r)) :
    ∃ e, (∀ more, IsText more → IsText (e ++ more)) ∧ s = e ++ r ∧
      ∀ rest, lowHalf high (e ++ rest) = .ok (c, rest) := by
  unfold lowHalf at h
  split at h
  · cases h
  · split at h <;> cases h
  · next b u s =>
    split at h
    · cases h
    · next escaped =>
      split at h
      · cases h
      · next low _ read =>
        split at h
        · next isLow =>
          simp only [Except.ok.injEq, Prod.mk.injEq] at h
          obtain ⟨rfl, rfl⟩ := h
          obtain ⟨digits, escape, rfl, again⟩ := exists_value_of_fourDigits read
          simp only [not_or, not_not] at escaped
          obtain ⟨rfl, rfl⟩ := escaped
          refine ⟨Mark.backslash :: Mark.letter 'u' :: digits, fun more text => .escape escape text,
            rfl, fun rest => ?_⟩
          simp only [List.cons_append, lowHalf, again, if_pos isLow]
          rfl
        · cases h

/-- The escape of one character by number, which may be a pair of surrogates. -/
theorem exists_of_numbered {c : Char} (h : numbered s = .ok (c, r)) :
    ∃ e, (∀ more, IsText more → IsText (Mark.backslash :: Mark.letter 'u' :: (e ++ more))) ∧
      s = e ++ r ∧ ∀ rest, numbered (e ++ rest) = .ok (c, rest) := by
  unfold numbered at h
  split at h
  · cases h
  · next n behind read =>
    obtain ⟨digits, escape, rfl, again⟩ := exists_value_of_fourDigits read
    split at h
    · cases h
    · next notLow =>
      split at h
      · next isHigh =>
        obtain ⟨low, text, rfl, againLow⟩ := exists_of_lowHalf h
        refine ⟨digits ++ low, fun more isText => ?_, by rw [List.append_assoc], fun rest => ?_⟩
        · rw [List.append_assoc]
          exact .escape escape (text more isText)
        · rw [List.append_assoc, numbered, again]
          simp only [if_neg notLow, if_pos isHigh, againLow]
      · next notHigh =>
        cases h
        refine ⟨digits, fun more isText => .escape escape isText, rfl, fun rest => ?_⟩
        rw [numbered, again]
        simp only [if_neg notLow, if_neg notHigh]

theorem exists_of_escape {t : Bytes} (h : escape s = .ok (t, r)) :
    ∃ e, (∀ more, IsText more → IsText (Mark.backslash :: (e ++ more))) ∧ s = e ++ r ∧
      ∀ rest, escape (e ++ rest) = .ok (t, rest) := by
  unfold escape at h
  split at h
  · cases h
  · next b s =>
    split at h
    · next c letter =>
      cases h
      refine ⟨[b], fun more text => .escape (.letter (by rw [letter]; rfl)) text, rfl, ?_⟩
      intro rest
      rw [List.singleton_append, escape, letter]
    · next noLetter =>
      split at h
      · next isU =>
        subst isU
        cases read : numbered s with
        | error fault =>
            rw [read] at h
            cases h
        | ok p =>
            rw [read] at h
            cases h
            obtain ⟨e, text, rfl, again⟩ := exists_of_numbered read
            refine ⟨_ :: e, text, rfl, fun rest => ?_⟩
            rw [List.cons_append, escape, noLetter]
            simp only [if_pos, again]
            rfl
      · cases h

theorem exists_of_unescape {t : Bytes} (h : unescape s = .ok (t, r)) :
    ∃ b, IsText b ∧ s = b ++ r ∧ ∀ rest, unescape (b ++ rest) = .ok (t, rest) := by
  fun_induction unescape s generalizing t r with
  | case1 => cases h
  | case2 =>
      cases h
      refine ⟨[Mark.quote], .close, rfl, fun rest => ?_⟩
      rw [List.singleton_append, unescape, if_pos rfl]
  | case3 => cases h
  | case4 => simp_all
  | case5 s here behind read _ more rest others _ ih =>
      cases h
      obtain ⟨b, text, rfl, again⟩ := ih others
      obtain ⟨e, escaped, rfl, againHere⟩ := exists_of_escape read
      refine ⟨_, escaped b text, by rw [List.cons_append, List.append_assoc], fun rest => ?_⟩
      have passed := againHere (b ++ rest)
      rw [List.cons_append, List.append_assoc, unescape, if_neg (by decide), if_pos rfl]
      split
      · next failed => cases passed.symm.trans failed
      · next same =>
        cases passed.symm.trans same
        rw [again]
  | case6 => cases h
  | case7 => simp_all
  | case8 c s quote backslash control more rest others ih =>
      cases h
      obtain ⟨b, text, rfl, again⟩ := ih others
      refine ⟨c :: b, .plain ⟨quote, backslash, by simpa using control⟩ text, rfl, fun rest => ?_⟩
      rw [List.cons_append, unescape, if_neg quote, if_neg backslash, if_neg control, again]

theorem exists_of_textBody {t : String} (h : textBody s = .ok (t, r)) :
    ∃ b, IsText b ∧ s = b ++ r ∧ ∀ rest, textBody (b ++ rest) = .ok (t, rest) := by
  unfold textBody at h
  split at h
  · cases h
  · next bytes behind read =>
    split at h
    · next decoded =>
      cases h
      obtain ⟨b, text, rfl, again⟩ := exists_of_unescape read
      refine ⟨b, text, rfl, fun rest => ?_⟩
      rw [textBody, again]
      simp only [decoded]
    · cases h

/-- A text is read to its end and no further, and has the same content wherever it stands. -/
theorem textBody_append {b : Bytes} {t : String} (text : IsText b)
    (h : textBody (b ++ rest) = .ok (t, r)) : r = rest ∧ textBody b = .ok (t, []) := by
  obtain ⟨b', text', split, again⟩ := exists_of_textBody h
  have passed := skipText_append text' r
  rw [← split, skipText_append text rest] at passed
  cases passed
  obtain rfl := List.append_cancel_right split
  exact ⟨rfl, by simpa using again []⟩

theorem textBody_behind {b : Bytes} {t : String} (h : textBody b = .ok (t, [])) (rest : Bytes) :
    textBody (b ++ rest) = .ok (t, rest) := by
  obtain ⟨b', -, split, again⟩ := exists_of_textBody h
  rw [split, List.append_nil]
  exact again rest

/-! ## Readers -/

namespace Reader

variable {α β : Type} {x : Reader α} {a : α}

/-- `x` takes `a` from `v`, whatever stands behind it. -/
def Takes (x : Reader α) (v : Bytes) (a : α) : Prop := ∀ rest, x.run (v ++ rest) = .ok (a, rest)

/-- What `x` takes from a text is a value, and does not depend on what stands behind it. -/
def Definite (x : Reader α) : Prop :=
  ∀ s a r, x.run s = .ok (a, r) → ∃ v, IsValue v ∧ s = v ++ r ∧ x.Takes v a

/-- A definite reader stops where the value ends. -/
theorem Definite.takes (definite : x.Definite) (value : IsValue v) (ends : Delimited rest)
    (ends' : Delimited r) (h : x.run (v ++ rest) = .ok (a, r)) : r = rest ∧ x.Takes v a := by
  -- Both divisions of the text are those of the scanner that passes over values.
  obtain ⟨w, value', split, takes⟩ := definite _ _ _ h
  have passed := skipValue_append value' ends'
  rw [← split, skipValue_append value ends] at passed
  cases passed
  obtain rfl := List.append_cancel_right split
  exact ⟨rfl, takes⟩

/-- A whole text holds what is taken from its value, if only white space stands behind it. -/
theorem Definite.decode_iff (definite : x.Definite) (value : IsValue v) (blank : IsBlank rest) :
    x.decode (v ++ rest) = .ok a ↔ x.Takes v a := by
  have ended : (skipSpace rest).isEmpty = true :=
    List.isEmpty_iff.mpr (skipSpace_eq_nil_iff.mpr blank)
  constructor
  · intro h
    unfold Reader.decode at h
    split at h
    · cases h
    · next behind read =>
      split at h
      · next ended =>
        cases h
        have ends := delimited_of_isBlank (skipSpace_eq_nil_iff.mp (List.isEmpty_iff.mp ended))
        exact (definite.takes value (delimited_of_isBlank blank) ends read).2
      · cases h
  · intro takes
    rw [Reader.decode, takes]
    exact if_pos ended

/-- What has been decoded is a value with white space behind it. -/
theorem Definite.exists_of_decode (definite : x.Definite) (h : x.decode s = .ok a) :
    ∃ v rest, IsValue v ∧ IsBlank rest ∧ s = v ++ rest := by
  unfold Reader.decode at h
  split at h
  · cases h
  · next read =>
    split at h
    · next ended =>
      obtain ⟨v, value, rfl, -⟩ := definite _ _ _ read
      exact ⟨v, _, value, skipSpace_eq_nil_iff.mp (List.isEmpty_iff.mp ended), rfl⟩
    · cases h

theorem Takes.map (h : x.Takes v a) (f : α → β) : (x.map f).Takes v (f a) := by
  intro rest
  change (x.run _).map _ = _
  rw [h]
  rfl

/-- Nothing else is taken through a function. -/
theorem exists_of_run_map {f : α → β} {b : β} (h : (x.map f).run s = .ok (b, r)) :
    ∃ a, x.run s = .ok (a, r) ∧ b = f a := by
  change (x.run s).map _ = _ at h
  cases read : x.run s with
  | error fault =>
      rw [read] at h
      cases h
  | ok p =>
      rw [read] at h
      cases h
      exact ⟨p.1, rfl, rfl⟩

/-- What is taken through a function has been taken before it. -/
theorem Definite.takes_map_iff {f : α → β} {b : β} (definite : x.Definite) :
    (x.map f).Takes v b ↔ ∃ a, x.Takes v a ∧ b = f a := by
  constructor
  · intro h
    obtain ⟨a, read, rfl⟩ := exists_of_run_map (h [])
    obtain ⟨w, -, split, takes⟩ := definite _ _ _ read
    obtain rfl := List.append_cancel_right split
    exact ⟨a, takes, rfl⟩
  · rintro ⟨a, takes, rfl⟩
    exact takes.map f

theorem Definite.map (definite : x.Definite) (f : α → β) : (x.map f).Definite := by
  intro s b r h
  obtain ⟨a, read, rfl⟩ := exists_of_run_map h
  obtain ⟨v, value, split, takes⟩ := definite _ _ _ read
  exact ⟨v, value, split, takes.map f⟩

theorem definite_text : text.Definite := by
  intro s a r h
  change readText s = _ at h
  unfold readText at h
  split at h
  · cases h
  · next skip =>
    split at h
    · next isQuote =>
      subst isQuote
      obtain ⟨lead, blank, -, rfl⟩ := exists_of_skipSpace skip
      obtain ⟨b, isText, rfl, again⟩ := exists_of_textBody h
      refine ⟨_, ⟨lead, _, blank, .text isText, rfl⟩, by simp, fun rest => ?_⟩
      change readText _ = _
      have skip' : skipSpace (lead ++ Mark.quote :: b ++ rest) = Mark.quote :: (b ++ rest) := by
        rw [List.append_assoc, skipSpace_append blank]
        rfl
      rw [readText, skip']
      simp only [if_pos, again]
    · cases h

theorem definite_optionalText : optionalText.Definite := by
  intro s a r h
  change readOptionalText s = _ at h
  unfold readOptionalText at h
  split at h
  · cases h
  · next b more skip =>
    obtain ⟨lead, blank, solid, rfl⟩ := exists_of_skipSpace skip
    have skip' (s : Bytes) : skipSpace (lead ++ b :: s) = b :: s := by
      rw [skipSpace_append blank, skipSpace_of_not_isSpace solid]
    split at h
    · next isNull =>
      subst isNull
      cases read : expectWord wordNull more with
      | error fault =>
          rw [read] at h
          cases h
      | ok behind =>
          rw [read] at h
          cases h
          obtain rfl := eq_of_expectWord read
          have null : Derives .value (Mark.letter 'n' :: wordNull) := .word List.mem_cons_self
          refine ⟨_, ⟨lead, _, blank, null, rfl⟩, by rw [List.append_assoc]; rfl, fun rest => ?_⟩
          change readOptionalText _ = _
          rw [List.append_assoc, List.cons_append, readOptionalText, skip']
          simp only [if_pos, expectWord_append]
          rfl
    · next notNull =>
      cases read : readText (b :: more) with
      | error fault =>
          rw [read] at h
          cases h
      | ok p =>
          rw [read] at h
          cases h
          obtain ⟨w, value, split, takes⟩ := definite_text _ _ _ read
          obtain ⟨c, w, rfl⟩ := List.exists_cons_of_ne_nil value.ne_nil
          obtain ⟨rfl, rfl⟩ := List.cons.inj split
          refine ⟨_, value.append blank, by simp, fun rest => ?_⟩
          have text : readText (b :: (w ++ rest)) = .ok (p.1, rest) := takes rest
          change readOptionalText _ = _
          rw [List.append_assoc, List.cons_append, readOptionalText, skip']
          simp only [if_neg notNull, text]
          rfl

end Reader

end Enrollment.Json
