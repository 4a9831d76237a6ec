import Enrollment.Proofs.Json.Grammar
import Mathlib.Data.List.TakeWhile

/-!
# White space, texts, numbers and words

Each of them is passed over by a scanner of its own, and for each the scanner and the grammar
agree: what the scanner has passed over is what the grammar says, and what the grammar says is
passed over whatever stands behind it. Only a number has to be delimited, since more digits, a
point or an exponent would belong to it.
-/

namespace Enrollment.Json

variable {s r rest lead : Bytes} {b : UInt8}

/-! ## White space -/

theorem isBlank_nil : IsBlank [] := List.forall_mem_nil _

theorem skipSpace_append (blank : IsBlank lead) (s : Bytes) :
    skipSpace (lead ++ s) = skipSpace s := List.dropWhile_append_of_pos blank

theorem skipSpace_eq_nil_iff : skipSpace s = [] ↔ IsBlank s := List.dropWhile_eq_nil_iff

/-- In front of what is left when white space has been passed over there is nothing else. -/
theorem exists_of_skipSpace (h : skipSpace s = b :: r) :
    ∃ lead, IsBlank lead ∧ isSpace b = false ∧ s = lead ++ b :: r := by
  refine ⟨s.takeWhile isSpace, fun c inside => List.mem_takeWhile_imp inside, ?_, ?_⟩
  · have kept := List.head?_dropWhile_not isSpace s
    rw [show s.dropWhile isSpace = b :: r from h] at kept
    simpa using kept
  · rw [← h]
    exact List.takeWhile_append_dropWhile.symm

theorem skipSpace_of_not_isSpace (solid : isSpace b = false) : skipSpace (b :: s) = b :: s := by
  rw [skipSpace, List.dropWhile_cons, solid]
  rfl

/-! ## Texts -/

theorem fourDigits_append {digits : Bytes} (four : digits.length = 4)
    (hex : ∀ d ∈ digits, (hexDigit? d).isSome = true) :
    ∃ n, ∀ rest, fourDigits (digits ++ rest) = .ok (n, rest) := by
  match digits, four with
  | [a, b, c, d], _ =>
      simp only [List.forall_mem_cons, List.not_mem_nil, false_implies, implies_true, and_true,
        Option.isSome_iff_exists] at hex
      obtain ⟨⟨a', ha⟩, ⟨b', hb⟩, ⟨c', hc⟩, ⟨d', hd⟩⟩ := hex
      refine ⟨((a' * 16 + b') * 16 + c') * 16 + d', fun rest => ?_⟩
      simp only [List.cons_append, List.nil_append, fourDigits, ha, hb, hc, hd]

theorem exists_of_fourDigits {n : Nat} (h : fourDigits s = .ok (n, r)) :
    ∃ digits : Bytes, digits.length = 4 ∧ (∀ d ∈ digits, (hexDigit? d).isSome = true) ∧
      s = digits ++ r := by
  unfold fourDigits at h
  split at h
  · next a b c d s =>
    split at h
    · next ha hb hc hd =>
      cases h
      refine ⟨[a, b, c, d], rfl, ?_, rfl⟩
      simp [ha, hb, hc, hd]
    · cases h
  · cases h

theorem skipEscape_append {e : Bytes} (h : IsEscape e) (rest : Bytes) :
    skipEscape (e ++ rest) = .ok rest := by
  cases h with
  | letter letter => rw [List.singleton_append, skipEscape, if_pos letter]
  | number four hex =>
      obtain ⟨n, read⟩ := fourDigits_append four hex
      rw [List.cons_append, skipEscape, if_neg (by decide), if_pos rfl, read]
      rfl

theorem exists_of_skipEscape (h : skipEscape s = .ok r) : ∃ e, IsEscape e ∧ s = e ++ r := by
  unfold skipEscape at h
  split at h
  · cases h
  · next b s =>
    split at h
    · next letter =>
      cases h
      exact ⟨[b], .letter letter, rfl⟩
    · split at h
      · next same =>
        subst same
        cases read : fourDigits s with
        | error e =>
            rw [read] at h
            cases h
        | ok p =>
            rw [read] at h
            cases h
            obtain ⟨digits, four, hex, rfl⟩ := exists_of_fourDigits read
            exact ⟨_, .number four hex, rfl⟩
      · cases h

theorem skipText_append {t : Bytes} (h : IsText t) (rest : Bytes) :
    skipText (t ++ rest) = .ok rest := by
  induction h with
  | close =>
      rw [List.singleton_append, skipText]
      rfl
  | plain alone _ ih =>
      obtain ⟨quote, backslash, control⟩ := alone
      rw [List.cons_append, skipText, if_neg quote, if_neg backslash, control]
      exact ih
  | @escape e s escape _ ih =>
      have passed := skipEscape_append escape (s ++ rest)
      rw [List.cons_append, List.append_assoc, skipText, if_neg (by decide), if_pos rfl]
      split
      · next failed => cases passed.symm.trans failed
      · next same =>
        cases passed.symm.trans same
        exact ih

theorem exists_of_skipText (h : skipText s = .ok r) : ∃ t, IsText t ∧ s = t ++ r := by
  fun_induction skipText s with
  | case1 => cases h
  | case2 =>
      cases h
      exact ⟨[Mark.quote], .close, rfl⟩
  | case3 => cases h
  | case4 s behind passed _ _ ih =>
      obtain ⟨t, text, rfl⟩ := ih h
      obtain ⟨e, escape, rfl⟩ := exists_of_skipEscape passed
      exact ⟨_, .escape escape text, by rw [List.cons_append, List.append_assoc]⟩
  | case5 => cases h
  | case6 b s quote backslash control ih =>
      obtain ⟨t, text, rfl⟩ := ih h
      exact ⟨b :: t, .plain ⟨quote, backslash, by simpa using control⟩ text, rfl⟩

/-! ## Numbers -/

/-- A number cannot be continued by what stands here. -/
def Delimited (s : Bytes) : Prop :=
  ∀ b, s.head? = some b → isDigit b = false ∧ b ≠ Mark.point ∧ isExponentLetter b = false

theorem delimited_nil : Delimited [] := by
  intro b head
  cases head

theorem dropWhile_isDigit {digits : Bytes} (all : ∀ d ∈ digits, isDigit d = true)
    (ends : ∀ b, s.head? = some b → isDigit b = false) :
    (digits ++ s).dropWhile isDigit = s := by
  rw [List.dropWhile_append_of_pos all]
  cases s with
  | nil => rfl
  | cons b s =>
      rw [List.dropWhile_cons, ends b rfl]
      rfl

theorem skipDigits_append {digits : Bytes} (h : IsDigits digits)
    (ends : ∀ b, s.head? = some b → isDigit b = false) :
    skipDigits (digits ++ s) = .ok s := by
  obtain ⟨some, all⟩ := h
  cases digits with
  | nil => exact absurd rfl some
  | cons d digits =>
      obtain ⟨first, others⟩ := List.forall_mem_cons.mp all
      rw [List.cons_append, skipDigits, if_pos first, dropWhile_isDigit others ends]

theorem exists_of_skipDigits (h : skipDigits s = .ok r) :
    ∃ digits, IsDigits digits ∧ s = digits ++ r := by
  unfold skipDigits at h
  split at h
  · cases h
  · next b s =>
    split at h
    · next first =>
      cases h
      refine ⟨b :: s.takeWhile isDigit, ⟨List.cons_ne_nil _ _, ?_⟩, ?_⟩
      · exact List.forall_mem_cons.mpr ⟨first, fun d inside => List.mem_takeWhile_imp inside⟩
      · rw [List.cons_append, List.takeWhile_append_dropWhile]
    · cases h

theorem skipSign_append {sign digits : Bytes} (h : sign ∈ [[], [Mark.plus], [Mark.minus]])
    (isDigits : IsDigits digits) (s : Bytes) : skipSign (sign ++ (digits ++ s)) = digits ++ s := by
  simp only [List.mem_cons, List.not_mem_nil, or_false] at h
  rcases h with rfl | rfl | rfl
  · obtain ⟨some, all⟩ := isDigits
    cases digits with
    | nil => exact absurd rfl some
    | cons d digits =>
        have digit := all d List.mem_cons_self
        have signless : ¬ (d = Mark.plus ∨ d = Mark.minus) := by
          rintro (rfl | rfl)
          · exact absurd digit (by decide)
          · exact absurd digit (by decide)
        rw [List.nil_append, List.cons_append, skipSign, if_neg signless]
  · rfl
  · rfl

theorem exists_of_skipSign (s : Bytes) :
    ∃ sign ∈ [[], [Mark.plus], [Mark.minus]], s = sign ++ skipSign s := by
  unfold skipSign
  split
  · exact ⟨[], by simp, rfl⟩
  · split
    · next signed =>
      rcases signed with rfl | rfl
      · exact ⟨[Mark.plus], by simp, rfl⟩
      · exact ⟨[Mark.minus], by simp, rfl⟩
    · exact ⟨[], by simp, rfl⟩

theorem skipExponent_append {exponent : Bytes} (h : IsExponent exponent) (ends : Delimited s) :
    skipExponent (exponent ++ s) = .ok s := by
  rcases h with rfl | ⟨letter, sign, digits, isLetter, isSign, isDigits, rfl⟩
  · rw [List.nil_append]
    cases s with
    | nil => rfl
    | cons b s =>
        rw [skipExponent, (ends b rfl).2.2]
        rfl
  · rw [List.cons_append, skipExponent, if_pos isLetter, List.append_assoc,
      skipSign_append isSign isDigits]
    exact skipDigits_append isDigits fun b head => (ends b head).1

theorem exists_of_skipExponent (h : skipExponent s = .ok r) :
    ∃ exponent, IsExponent exponent ∧ s = exponent ++ r := by
  unfold skipExponent at h
  split at h
  · cases h
    exact ⟨[], .inl rfl, rfl⟩
  · next b s =>
    split at h
    · next isLetter =>
      obtain ⟨sign, isSign, split⟩ := exists_of_skipSign s
      obtain ⟨digits, isDigits, behind⟩ := exists_of_skipDigits h
      refine ⟨_, .inr ⟨b, sign, digits, isLetter, isSign, isDigits, rfl⟩, ?_⟩
      rw [List.cons_append, List.append_assoc, ← behind, ← split]
    · cases h
      exact ⟨[], .inl rfl, rfl⟩

/-- An exponent starts with its letter, which is neither a digit nor a point. -/
theorem opens_exponent {exponent : Bytes} (h : IsExponent exponent) (ends : Delimited s) :
    ∀ b, (exponent ++ s).head? = some b → isDigit b = false ∧ b ≠ Mark.point := by
  intro b head
  rcases h with rfl | ⟨letter, sign, digits, isLetter, -, -, rfl⟩
  · exact ⟨(ends b head).1, (ends b head).2.1⟩
  · cases head
    simp only [isExponentLetter, Bool.or_eq_true, decide_eq_true_eq] at isLetter
    rcases isLetter with rfl | rfl
    · exact ⟨by decide, by decide⟩
    · exact ⟨by decide, by decide⟩

theorem opens_fraction {fraction exponent : Bytes} (h : IsFraction fraction)
    (h' : IsExponent exponent) (ends : Delimited s) :
    ∀ b, (fraction ++ (exponent ++ s)).head? = some b → isDigit b = false := by
  intro b head
  rcases h with rfl | ⟨digits, -, rfl⟩
  · exact (opens_exponent h' ends b head).1
  · cases head
    decide

theorem skipFraction_append {fraction exponent : Bytes} (h : IsFraction fraction)
    (h' : IsExponent exponent) (ends : Delimited s) :
    skipFraction (fraction ++ (exponent ++ s)) = .ok s := by
  have passed := skipExponent_append h' ends
  have opens := opens_exponent h' ends
  rcases h with rfl | ⟨digits, isDigits, rfl⟩
  · rw [List.nil_append]
    cases behind : exponent ++ s with
    | nil =>
        rw [behind] at passed
        exact passed
    | cons b more =>
        rw [behind] at passed opens
        rw [skipFraction, if_neg (opens b rfl).2]
        exact passed
  · have digits := skipDigits_append isDigits fun b head => (opens b head).1
    rw [List.cons_append, skipFraction, if_pos rfl, digits]
    exact passed

theorem exists_of_skipFraction (h : skipFraction s = .ok r) :
    ∃ fraction exponent, IsFraction fraction ∧ IsExponent exponent ∧
      s = fraction ++ (exponent ++ r) := by
  unfold skipFraction at h
  split at h
  · cases h
    exact ⟨[], [], .inl rfl, .inl rfl, rfl⟩
  · next b s =>
    split at h
    · next point =>
      subst point
      cases passed : skipDigits s with
      | error e =>
          rw [passed] at h
          cases h
      | ok behind =>
          rw [passed] at h
          obtain ⟨digits, isDigits, rfl⟩ := exists_of_skipDigits passed
          obtain ⟨exponent, isExponent, rfl⟩ := exists_of_skipExponent h
          exact ⟨_, exponent, .inr ⟨digits, isDigits, rfl⟩, isExponent, rfl⟩
    · obtain ⟨exponent, isExponent, split⟩ := exists_of_skipExponent h
      exact ⟨[], exponent, .inl rfl, isExponent, split⟩

theorem skipUnsigned_append {number : Bytes} (h : IsUnsigned number) (ends : Delimited s) :
    skipUnsigned (number ++ s) = .ok s := by
  obtain ⟨whole, fraction, exponent, isWhole, isFraction, isExponent, rfl⟩ := h
  have passed := skipFraction_append isFraction isExponent ends
  have opens := opens_fraction isFraction isExponent ends
  rw [List.append_assoc, List.append_assoc]
  -- No digit may follow a zero that stands alone, and none does.
  rcases isWhole with rfl | ⟨⟨some, all⟩, nonzero⟩
  · rw [List.singleton_append, skipUnsigned, if_pos rfl, if_neg ?_]
    · exact passed
    · cases head : (fraction ++ (exponent ++ s)).head? with
      | none => simp
      | some b => simp [opens b head]
  · cases whole with
    | nil => exact absurd rfl some
    | cons d whole =>
        have zeroless : d ≠ 0x30 := fun zero => nonzero (congrArg _ zero)
        obtain ⟨first, others⟩ := List.forall_mem_cons.mp all
        rw [List.cons_append, skipUnsigned, if_neg zeroless, if_pos first,
          dropWhile_isDigit others opens]
        exact passed

theorem exists_of_skipUnsigned (h : skipUnsigned s = .ok r) :
    ∃ number, IsUnsigned number ∧ s = number ++ r := by
  unfold skipUnsigned at h
  split at h
  · cases h
  · next b s =>
    split at h
    · next zero =>
      subst zero
      split at h
      · cases h
      · obtain ⟨fraction, exponent, isFraction, isExponent, rfl⟩ := exists_of_skipFraction h
        refine ⟨_, ⟨[0x30], fraction, exponent, .inl rfl, isFraction, isExponent, rfl⟩, ?_⟩
        simp
    · next nonzero =>
      split at h
      · next first =>
        obtain ⟨fraction, exponent, isFraction, isExponent, split⟩ := exists_of_skipFraction h
        have whole : IsWhole (b :: s.takeWhile isDigit) := by
          refine .inr ⟨⟨List.cons_ne_nil _ _, List.forall_mem_cons.mpr ⟨first, ?_⟩⟩, ?_⟩
          · exact fun d inside => List.mem_takeWhile_imp inside
          · exact fun zero => nonzero (Option.some.inj zero)
        refine ⟨_, ⟨_, fraction, exponent, whole, isFraction, isExponent, rfl⟩, ?_⟩
        rw [List.append_assoc, List.append_assoc, ← split, List.cons_append,
          List.takeWhile_append_dropWhile]
      · cases h

/-! ## Words -/

theorem expectWord_append (w rest : Bytes) : expectWord w (w ++ rest) = .ok rest := by
  induction w with
  | nil => rfl
  | cons b w ih => rw [List.cons_append, expectWord, if_pos rfl, ih]

theorem eq_of_expectWord {w : Bytes} (h : expectWord w s = .ok r) : s = w ++ r := by
  fun_induction expectWord w s with
  | case1 =>
      cases h
      rfl
  | case2 => cases h
  | case3 _ _ _ ih => rw [List.cons_append, ← ih h]
  | case4 => cases h

theorem IsUnsigned.opens (h : IsUnsigned s) : ∃ d more, s = d :: more ∧ isDigit d = true := by
  obtain ⟨whole, fraction, exponent, isWhole, -, -, rfl⟩ := h
  rcases isWhole with rfl | ⟨⟨some, all⟩, -⟩
  · exact ⟨0x30, _, rfl, by decide⟩
  · cases whole with
    | nil => exact absurd rfl some
    | cons d whole => exact ⟨d, _, rfl, all d List.mem_cons_self⟩

end Enrollment.Json
