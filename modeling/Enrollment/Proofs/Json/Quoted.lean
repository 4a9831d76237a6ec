import Enrollment.Json.Text
import Enrollment.Proofs.Text.Utf8

/-!
# Reading quoted texts back

A text is written between quotes character by character: with an escape letter, by number, or as
it is. Each of these forms is read back as the bytes of its character, so a written text is read
back whole, and what stands behind its closing quote is left.
-/

namespace Enrollment.Json

variable {s more here text rest : Bytes}

/-! ## One step of reading -/

theorem unescape_quote (rest : Bytes) : unescape (Mark.quote :: rest) = .ok ([], rest) := by
  rw [unescape]
  rfl

theorem unescape_escape (escaped : escape s = .ok (here, more))
    (h : unescape more = .ok (text, rest)) :
    unescape (Mark.backslash :: s) = .ok (here ++ text, rest) := by
  rw [unescape, if_neg (by decide), if_pos rfl]
  split
  · next failed => cases escaped.symm.trans failed
  · next same =>
    cases escaped.symm.trans same
    rw [h]

/-- A byte that stands for itself. -/
def IsPlain (b : UInt8) : Prop := b ≠ Mark.quote ∧ b ≠ Mark.backslash ∧ ¬ isControl b

theorem unescape_plain {b : UInt8} (plain : IsPlain b) (h : unescape more = .ok (text, rest)) :
    unescape (b :: more) = .ok (b :: text, rest) := by
  obtain ⟨notQuote, notBackslash, notControl⟩ := plain
  rw [unescape, if_neg notQuote, if_neg notBackslash, if_neg notControl, h]

theorem unescape_plains {bytes : Bytes} (plain : ∀ b ∈ bytes, IsPlain b)
    (h : unescape more = .ok (text, rest)) :
    unescape (bytes ++ more) = .ok (bytes ++ text, rest) := by
  induction bytes with
  | nil => exact h
  | cons b bytes ih =>
      have others := ih fun b' inside => plain b' (List.mem_cons_of_mem _ inside)
      exact unescape_plain (plain b List.mem_cons_self) others

/-! ## The written form of one character -/

/-- What is written as it is is read as it is. -/
theorem isPlain_of_mem {c : Char} (notQuote : c ≠ '"') (notBackslash : c ≠ '\\')
    (above : 0x20 ≤ c.toNat) : ∀ b ∈ String.utf8EncodeChar c, IsPlain b := by
  have high {b : UInt8} (h : 0x80 ≤ b.toNat) : IsPlain b := by
    refine ⟨?_, ?_, ?_⟩
    · rintro rfl
      exact absurd h (by decide)
    · rintro rfl
      exact absurd h (by decide)
    · rw [isControl, decide_eq_true_eq, UInt8.lt_iff_toNat_lt]
      exact Nat.not_lt.mpr (Nat.le_trans (by decide) h)
  have trail (n : Nat) : IsPlain (Utf8.trail n) := by
    refine high ?_
    rw [Utf8.toNat_trail]
    exact Nat.le_add_left _ _
  have valid := Utf8.toNat_valid c
  obtain ⟨one, bytes⟩ | ⟨-, two, bytes⟩ | ⟨-, three, bytes⟩ | ⟨-, bytes⟩ :=
    Utf8.encodeChar_cases c
  · have number : (UInt8.ofNat c.toNat).toNat = c.toNat := by
      rw [UInt8.toNat_ofNat']
      omega
    rw [bytes, List.forall_mem_singleton]
    refine ⟨?_, ?_, ?_⟩
    · intro same
      rw [same] at number
      exact notQuote (Char.toNat_inj.mp number.symm)
    · intro same
      rw [same] at number
      exact notBackslash (Char.toNat_inj.mp number.symm)
    · rw [isControl, decide_eq_true_eq, UInt8.lt_iff_toNat_lt, number]
      exact Nat.not_lt.mpr above
  all_goals
    rw [bytes]
    simp only [List.forall_mem_cons, trail, List.not_mem_nil, false_implies, implies_true,
      and_true]
    refine high ?_
    rw [UInt8.toNat_ofNat']
    omega

theorem hexDigit?_digitChar : ∀ n < 0x10, hexDigit? (Mark.letter (Nat.digitChar n)) = some n := by
  decide +kernel

theorem encode_twoHexDigits : ∀ n < 0x20, Utf8.encode (twoHexDigits n) =
    [Mark.letter (Nat.digitChar (n / 0x10)), Mark.letter (Nat.digitChar (n % 0x10))] := by
  decide +kernel

/-- A control character that is written by number. -/
theorem escape_numbered {n : Nat} (control : n < 0x20) (more : Bytes) :
    escape (Utf8.encode (['u', '0', '0'] ++ twoHexDigits n) ++ more) =
      .ok (String.utf8EncodeChar (Char.ofNat n), more) := by
  have digits : fourDigits (0x30 :: 0x30 :: (Utf8.encode (twoHexDigits n) ++ more)) =
      .ok (n, more) := by
    have value : ((0 * 16 + 0) * 16 + n / 16) * 16 + n % 16 = n := by omega
    have first := hexDigit?_digitChar (n / 16) (by omega)
    have second := hexDigit?_digitChar (n % 16) (by omega)
    have zero : hexDigit? 0x30 = some 0 := by decide
    rw [encode_twoHexDigits n control]
    simp only [List.cons_append, List.nil_append, fourDigits, zero, first, second, value]
  have low : isLowSurrogate n = false := by
    simp only [isLowSurrogate, Bool.and_eq_false_iff, decide_eq_false_iff_not]
    omega
  have high : isHighSurrogate n = false := by
    simp only [isHighSurrogate, Bool.and_eq_false_iff, decide_eq_false_iff_not]
    omega
  have number : numbered (0x30 :: 0x30 :: (Utf8.encode (twoHexDigits n) ++ more)) =
      .ok (Char.ofNat n, more) := by
    simp [numbered, digits, low, high]
  rw [Utf8.encode_append, List.append_assoc]
  change (numbered _).map _ = _
  exact congrArg _ number

/-- A character is read back from its written form. -/
theorem unescape_quotedChar (c : Char) (h : unescape more = .ok (text, rest)) :
    unescape (Utf8.encode (quotedChar c) ++ more) =
      .ok (String.utf8EncodeChar c ++ text, rest) := by
  have lettered {letter : Char}
      (escaped : escape (Utf8.encode [letter] ++ more) = .ok (String.utf8EncodeChar c, more)) :
      unescape (Utf8.encode ['\\', letter] ++ more) = .ok (String.utf8EncodeChar c ++ text, rest) :=
    unescape_escape escaped h
  unfold quotedChar
  split
  · next special =>
    obtain rfl | rfl := special
    · exact lettered rfl
    · exact lettered rfl
  next ordinary =>
  iterate 5
    split
    · next same =>
      subst same
      exact lettered rfl
  split
  · next control =>
    have escaped := escape_numbered control more
    rw [Char.ofNat_toNat] at escaped
    exact unescape_escape escaped h
  · next above =>
    obtain ⟨notQuote, notBackslash⟩ := not_or.mp ordinary
    rw [Utf8.encode_cons, Utf8.encode_nil, List.append_nil]
    exact unescape_plains (isPlain_of_mem notQuote notBackslash (Nat.not_lt.mp above)) h

/-! ## Texts -/

/-- The characters of a text are read back up to its closing quote. -/
theorem unescape_written (cs : List Char) (rest : Bytes) :
    unescape (Utf8.encode (cs.flatMap quotedChar) ++ Mark.quote :: rest) =
      .ok (Utf8.encode cs, rest) := by
  induction cs with
  | nil => exact unescape_quote rest
  | cons c cs ih =>
      rw [List.flatMap_cons, Utf8.encode_append, List.append_assoc, Utf8.encode_cons]
      exact unescape_quotedChar c ih

end Enrollment.Json
