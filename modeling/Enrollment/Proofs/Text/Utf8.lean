import Enrollment.Text.Utf8
import Mathlib.Tactic.Common

/-!
# Reading characters back from their bytes

A character is written as one byte, or as a first byte and up to three more. The first byte says
how many follow it and in which range the next one lies; every byte that follows carries six bits.
Read from the front, the bytes of a character yield this character and nothing else, whatever
comes behind them. Bytes that yield characters only are the bytes of these characters.
-/

namespace Enrollment.Utf8

variable {p : Partway} {m n x y z : Nat} {rest : List UInt8}

/-! ## First bytes -/

theorem lead_one : ∀ n < 0x80, lead (UInt8.ofNat n) = ([some (Char.ofNat n)], none) := by
  decide +kernel

theorem lead_two : ∀ n < 0x20, 2 ≤ n →
    lead (UInt8.ofNat (n + 0xC0)) = ([], some ⟨1, n, 0x80, 0xBF⟩) := by
  decide +kernel

theorem lead_three : ∀ n < 0x10, lead (UInt8.ofNat (n + 0xE0)) =
    ([], some ⟨2, n, if n = 0 then 0xA0 else 0x80, if n = 0xD then 0x9F else 0xBF⟩) := by
  decide +kernel

theorem lead_four : ∀ n < 5, lead (UInt8.ofNat (n + 0xF0)) =
    ([], some ⟨3, n, if n = 0 then 0x90 else 0x80, if n = 4 then 0x8F else 0xBF⟩) := by
  decide +kernel

/-! ## Bytes that follow -/

/-- The byte that carries the last six bits of `n`. -/
abbrev trail (n : Nat) : UInt8 := UInt8.ofNat (n % 0x40 + 0x80)

theorem toNat_trail (n : Nat) : (trail n).toNat = n % 0x40 + 0x80 := by
  rw [UInt8.toNat_ofNat']
  omega

/-- A byte in the range that an open character allows, when it is not the last one. -/
theorem piecesFrom_trail (more : p.missing = m + 2) (lower : p.lower ≤ trail n)
    (upper : trail n ≤ p.upper) : piecesFrom (some p) (trail n :: rest) =
      piecesFrom (some ⟨m + 1, p.bits * 0x40 + n % 0x40, 0x80, 0xBF⟩) rest := by
  have open' : p.missing ≠ 1 := by omega
  have left : p.missing - 1 = m + 1 := by omega
  have bits : (trail n).toNat % 0x40 = n % 0x40 := by
    rw [toNat_trail]
    omega
  rw [piecesFrom, step, if_pos ⟨lower, upper⟩, bits]
  simp only [if_neg open', left, List.nil_append]

/-- The last byte of an open character. -/
theorem piecesFrom_last (last : p.missing = 1) (lower : p.lower ≤ trail n)
    (upper : trail n ≤ p.upper) : piecesFrom (some p) (trail n :: rest) =
      some (Char.ofNat (p.bits * 0x40 + n % 0x40)) :: piecesFrom none rest := by
  have bits : (trail n).toNat % 0x40 = n % 0x40 := by
    rw [toNat_trail]
    omega
  rw [piecesFrom, step, if_pos ⟨lower, upper⟩, bits]
  simp only [if_pos last, List.singleton_append]

theorem trail_lower (n : Nat) : 0x80 ≤ trail n := by
  rw [UInt8.le_iff_toNat_le, toNat_trail]
  exact Nat.le_add_left _ _

theorem trail_upper (n : Nat) : trail n ≤ 0xBF := by
  rw [UInt8.le_iff_toNat_le, toNat_trail]
  change _ ≤ 0xBF
  omega

/-! ## Whole characters -/

/-- The numbers of characters leave out the surrogates. -/
theorem toNat_valid (c : Char) : c.toNat < 0xD800 ∨ 0xDFFF < c.toNat ∧ c.toNat < 0x110000 :=
  c.valid

/-- The bytes of a character, by the number of bits that it takes. -/
theorem encodeChar_cases (c : Char) :
    (c.toNat < 0x80 ∧ String.utf8EncodeChar c = [UInt8.ofNat c.toNat]) ∨
    (0x80 ≤ c.toNat ∧ c.toNat < 0x800 ∧
      String.utf8EncodeChar c = [UInt8.ofNat (c.toNat / 0x40 + 0xC0), trail c.toNat]) ∨
    (0x800 ≤ c.toNat ∧ c.toNat < 0x10000 ∧ String.utf8EncodeChar c =
      [UInt8.ofNat (c.toNat / 0x1000 + 0xE0), trail (c.toNat / 0x40), trail c.toNat]) ∨
    (0x10000 ≤ c.toNat ∧ String.utf8EncodeChar c =
      [UInt8.ofNat (c.toNat / 0x40000 + 0xF0), trail (c.toNat / 0x1000), trail (c.toNat / 0x40),
        trail c.toNat]) := by
  have valid := toNat_valid c
  have same : c.val.toNat = c.toNat := rfl
  simp only [String.utf8EncodeChar, same]
  split
  · exact .inl ⟨by omega, rfl⟩
  split
  · rw [Nat.mod_eq_of_lt (by omega : c.toNat / 64 < 32)]
    exact .inr (.inl ⟨by omega, by omega, rfl⟩)
  split
  · rw [Nat.mod_eq_of_lt (by omega : c.toNat / 4096 < 16)]
    exact .inr (.inr (.inl ⟨by omega, by omega, rfl⟩))
  · rw [Nat.mod_eq_of_lt (by omega : c.toNat / 262144 < 8)]
    exact .inr (.inr (.inr ⟨by omega, rfl⟩))

/-- The bytes of a character yield the character. -/
theorem piecesFrom_encodeChar (c : Char) (rest : List UInt8) :
    piecesFrom none (String.utf8EncodeChar c ++ rest) = some c :: piecesFrom none rest := by
  have valid := toNat_valid c
  have whole {m : Nat} (same : m = c.toNat) : Char.ofNat m = c := by
    rw [same, Char.ofNat_toNat]
  obtain ⟨one, bytes⟩ | ⟨above, two, bytes⟩ | ⟨above, three, bytes⟩ | ⟨above, bytes⟩ :=
    encodeChar_cases c
  · rw [bytes, List.singleton_append, piecesFrom, step, lead_one _ one, whole rfl]
    rfl
  · rw [bytes, List.cons_append, piecesFrom, step, lead_two _ (by omega) (by omega)]
    refine (piecesFrom_last rfl (trail_lower _) (trail_upper _)).trans ?_
    rw [whole (by simp only; omega)]
    rfl
  · have lower : (if c.toNat / 0x1000 = 0 then 0xA0 else 0x80) ≤ trail (c.toNat / 0x40) := by
      rw [UInt8.le_iff_toNat_le, toNat_trail]
      split
      · change 0xA0 ≤ _
        omega
      · exact Nat.le_add_left _ _
    have upper : trail (c.toNat / 0x40) ≤ (if c.toNat / 0x1000 = 0xD then 0x9F else 0xBF) := by
      rw [UInt8.le_iff_toNat_le, toNat_trail]
      split
      · change _ ≤ 0x9F
        omega
      · change _ ≤ 0xBF
        omega
    rw [bytes, List.cons_append, piecesFrom, step, lead_three _ (by omega)]
    refine (piecesFrom_trail rfl lower upper).trans ?_
    refine (piecesFrom_last rfl (trail_lower _) (trail_upper _)).trans ?_
    rw [whole (by simp only; omega)]
    rfl
  · have lower : (if c.toNat / 0x40000 = 0 then 0x90 else 0x80) ≤ trail (c.toNat / 0x1000) := by
      rw [UInt8.le_iff_toNat_le, toNat_trail]
      split
      · change 0x90 ≤ _
        omega
      · exact Nat.le_add_left _ _
    have upper : trail (c.toNat / 0x1000) ≤ (if c.toNat / 0x40000 = 4 then 0x8F else 0xBF) := by
      rw [UInt8.le_iff_toNat_le, toNat_trail]
      split
      · change _ ≤ 0x8F
        omega
      · change _ ≤ 0xBF
        omega
    rw [bytes, List.cons_append, piecesFrom, step, lead_four _ (by omega)]
    refine (piecesFrom_trail rfl lower upper).trans ?_
    refine (piecesFrom_trail rfl (trail_lower _) (trail_upper _)).trans ?_
    refine (piecesFrom_last rfl (trail_lower _) (trail_upper _)).trans ?_
    rw [whole (by simp only; omega)]
    rfl

/-! ## Texts -/

theorem pieces_encode (cs : List Char) : pieces (encode cs) = cs.map some := by
  induction cs with
  | nil => rfl
  | cons c cs ih =>
      have first := piecesFrom_encodeChar c (encode cs)
      rw [encode_cons, pieces, first, List.map_cons]
      exact congrArg _ ih

/-- What is written as bytes is read back. -/
theorem decode?_encode (cs : List Char) : decode? (encode cs) = some cs := by
  rw [decode?, pieces_encode]
  induction cs with
  | nil => rfl
  | cons c cs ih => simp [ih]

/-- The text is read piece by piece. -/
theorem pieces_of_decode? {bytes : List UInt8} {cs : List Char}
    (decoded : decode? bytes = some cs) : pieces bytes = cs.map some := by
  unfold decode? at decoded
  generalize pieces bytes = all at decoded ⊢
  induction all generalizing cs with
  | nil =>
      cases decoded
      rfl
  | cons first rest ih =>
      rw [List.mapM_cons] at decoded
      obtain ⟨c, rfl, others⟩ := Option.bind_eq_some_iff.mp decoded
      obtain ⟨behind, read, same⟩ := Option.bind_eq_some_iff.mp others
      cases same
      rw [ih read]
      rfl

/-! ## ASCII -/

/-- No byte below 0x80 continues a character. -/
theorem le_lower_lead (b : UInt8) : ∀ p ∈ (lead b).2, 0x80 ≤ p.lower := by
  intro p opened
  unfold lead at opened
  repeat' split at opened
  all_goals cases opened
  all_goals dsimp only; decide

theorem le_lower_step {state : Option Partway} (sound : ∀ p ∈ state, 0x80 ≤ p.lower) (b : UInt8) :
    ∀ p ∈ (step state b).2, 0x80 ≤ p.lower := by
  cases state with
  | none => exact le_lower_lead b
  | some p =>
      simp only [step]
      split
      · split
        · simp
        · simp
      · exact le_lower_lead b

theorem mem_step {state : Option Partway} (sound : ∀ p ∈ state, 0x80 ≤ p.lower) {b : UInt8}
    (ascii : b < 0x80) : some (Char.ofNat b.toNat) ∈ (step state b).1 := by
  have first : (lead b).1 = [some (Char.ofNat b.toNat)] := by rw [lead, if_pos ascii]
  cases state with
  | none => simp [step, first]
  | some p =>
      have low : ¬ (p.lower ≤ b ∧ b ≤ p.upper) := by
        intro within
        exact absurd (UInt8.le_trans (sound p rfl) within.1) (UInt8.not_le.mpr ascii)
      rw [step, if_neg low, first]
      simp

theorem mem_piecesFrom {bytes : List UInt8} {state : Option Partway}
    (sound : ∀ p ∈ state, 0x80 ≤ p.lower) {b : UInt8} (member : b ∈ bytes) (ascii : b < 0x80) :
    some (Char.ofNat b.toNat) ∈ piecesFrom state bytes := by
  induction bytes generalizing state with
  | nil => exact absurd member List.not_mem_nil
  | cons first rest ih =>
      rw [piecesFrom]
      · rcases List.mem_cons.mp member with rfl | later
        · exact List.mem_append_left _ (mem_step sound ascii)
        · exact List.mem_append_right _ (ih (le_lower_step sound first) later)

/-- A byte below 0x80 is a character of the text wherever it stands. -/
theorem mem_of_decode? {bytes : List UInt8} {cs : List Char} {b : UInt8}
    (decoded : decode? bytes = some cs) (member : b ∈ bytes) (ascii : b < 0x80) :
    Char.ofNat b.toNat ∈ cs := by
  have piece : some (Char.ofNat b.toNat) ∈ pieces bytes := mem_piecesFrom (by simp) member ascii
  rw [pieces_of_decode? decoded] at piece
  obtain ⟨c, inside, same⟩ := List.mem_map.mp piece
  exact Option.some.inj same ▸ inside

/-! ## Bytes without a broken piece -/

/-- A first byte is a character, or opens one, or is broken. -/
theorem lead_cases (b : UInt8) :
    (∃ n < 0x80, b = UInt8.ofNat n) ∨ (∃ n < 0x20, 2 ≤ n ∧ b = UInt8.ofNat (n + 0xC0)) ∨
    (∃ n < 0x10, b = UInt8.ofNat (n + 0xE0)) ∨ (∃ n < 5, b = UInt8.ofNat (n + 0xF0)) ∨
    none ∈ (lead b).1 := by
  have broken : ∀ n < 0x100, 0x80 ≤ n ∧ n < 0xC2 ∨ 0xF5 ≤ n → none ∈ (lead (UInt8.ofNat n)).1 := by
    decide +kernel
  have all := broken b.toNat b.toNat_lt
  rw [UInt8.ofNat_toNat] at all
  have shifted {m : Nat} (le : m ≤ b.toNat) : b = UInt8.ofNat (b.toNat - m + m) := by
    rw [Nat.sub_add_cancel le, UInt8.ofNat_toNat]
  by_cases one : b.toNat < 0x80
  · exact .inl ⟨_, one, UInt8.ofNat_toNat.symm⟩
  by_cases out : 0x80 ≤ b.toNat ∧ b.toNat < 0xC2 ∨ 0xF5 ≤ b.toNat
  · exact .inr (.inr (.inr (.inr (all out))))
  by_cases two : b.toNat < 0xE0
  · exact .inr (.inl ⟨b.toNat - 0xC0, by omega, by omega, shifted (by omega)⟩)
  by_cases three : b.toNat < 0xF0
  · exact .inr (.inr (.inl ⟨b.toNat - 0xE0, by omega, shifted (by omega)⟩))
  · exact .inr (.inr (.inr (.inl ⟨b.toNat - 0xF0, by omega, shifted (by omega)⟩)))

theorem trail_congr (same : m % 0x40 = n % 0x40) : trail m = trail n := by
  rw [trail, trail, same]

/-- An open character goes on with a byte in the range that it allows, or is broken. -/
theorem exists_trail {bytes : List UInt8} (whole : none ∉ piecesFrom (some p) bytes)
    (least : 0x80 ≤ p.lower) (most : p.upper ≤ 0xBF) :
    ∃ n rest, bytes = trail n :: rest ∧ n < 0x40 ∧ p.lower ≤ trail n ∧ trail n ≤ p.upper := by
  cases bytes with
  | nil => exact absurd List.mem_cons_self whole
  | cons b rest =>
      by_cases within : p.lower ≤ b ∧ b ≤ p.upper
      · have lower := UInt8.le_iff_toNat_le.mp (UInt8.le_trans least within.1)
        have upper := UInt8.le_iff_toNat_le.mp (UInt8.le_trans within.2 most)
        change 0x80 ≤ _ at lower
        change _ ≤ 0xBF at upper
        have same : b = trail (b.toNat % 0x40) := by
          apply UInt8.toNat.inj
          rw [toNat_trail]
          omega
        exact ⟨b.toNat % 0x40, rest, congrArg (· :: rest) same, Nat.mod_lt _ (by omega),
          same ▸ within⟩
      · rw [piecesFrom, step, if_neg within] at whole
        exact absurd List.mem_cons_self whole

theorem toNat_ofNat (valid : n < 0xD800 ∨ 0xDFFF < n ∧ n < 0x110000) :
    (Char.ofNat n).toNat = n := by
  rw [Char.ofNat, dif_pos valid]
  rfl

/-! The bytes of a character, by the bits that each of them carries. -/

theorem encodeChar_one (small : n < 0x80) :
    String.utf8EncodeChar (Char.ofNat n) = [UInt8.ofNat n] := by
  have same := toNat_ofNat (n := n) (.inl (by omega))
  obtain ⟨_, bytes⟩ | ⟨above, _⟩ | ⟨above, _⟩ | ⟨above, _⟩ := encodeChar_cases (Char.ofNat n)
  · rwa [same] at bytes
  all_goals omega

theorem encodeChar_two (least : 2 ≤ n) (most : n < 0x20) (small : x < 0x40) :
    String.utf8EncodeChar (Char.ofNat (n * 0x40 + x)) = [UInt8.ofNat (n + 0xC0), trail x] := by
  have same := toNat_ofNat (n := n * 0x40 + x) (.inl (by omega))
  obtain ⟨below, _⟩ | ⟨_, _, bytes⟩ | ⟨above, _⟩ | ⟨above, _⟩ :=
    encodeChar_cases (Char.ofNat (n * 0x40 + x))
  · omega
  · have first : (n * 0x40 + x) / 0x40 = n := by omega
    have last : trail (n * 0x40 + x) = trail x := trail_congr (by omega)
    rwa [same, first, last] at bytes
  all_goals omega

theorem encodeChar_three (most : n < 0x10) (long : n = 0 → 0x20 ≤ x) (apart : n = 0xD → x < 0x20)
    (small : x < 0x40) (small' : y < 0x40) :
    String.utf8EncodeChar (Char.ofNat ((n * 0x40 + x) * 0x40 + y)) =
      [UInt8.ofNat (n + 0xE0), trail x, trail y] := by
  have same := toNat_ofNat (n := (n * 0x40 + x) * 0x40 + y) (by omega)
  obtain ⟨below, _⟩ | ⟨_, below, _⟩ | ⟨_, _, bytes⟩ | ⟨above, _⟩ :=
    encodeChar_cases (Char.ofNat ((n * 0x40 + x) * 0x40 + y))
  · omega
  · omega
  · have first : ((n * 0x40 + x) * 0x40 + y) / 0x1000 = n := by omega
    have second : trail (((n * 0x40 + x) * 0x40 + y) / 0x40) = trail x := trail_congr (by omega)
    have last : trail ((n * 0x40 + x) * 0x40 + y) = trail y := trail_congr (by omega)
    rwa [same, first, second, last] at bytes
  · omega

theorem encodeChar_four (most : n < 5) (long : n = 0 → 0x10 ≤ x) (within : n = 4 → x < 0x10)
    (small : x < 0x40) (small' : y < 0x40) (small'' : z < 0x40) :
    String.utf8EncodeChar (Char.ofNat (((n * 0x40 + x) * 0x40 + y) * 0x40 + z)) =
      [UInt8.ofNat (n + 0xF0), trail x, trail y, trail z] := by
  have same := toNat_ofNat (n := ((n * 0x40 + x) * 0x40 + y) * 0x40 + z) (by omega)
  obtain ⟨below, _⟩ | ⟨_, below, _⟩ | ⟨_, below, _⟩ | ⟨_, bytes⟩ :=
    encodeChar_cases (Char.ofNat (((n * 0x40 + x) * 0x40 + y) * 0x40 + z))
  · omega
  · omega
  · omega
  · have first : (((n * 0x40 + x) * 0x40 + y) * 0x40 + z) / 0x40000 = n := by omega
    have second : trail ((((n * 0x40 + x) * 0x40 + y) * 0x40 + z) / 0x1000) = trail x :=
      trail_congr (by omega)
    have third : trail ((((n * 0x40 + x) * 0x40 + y) * 0x40 + z) / 0x40) = trail y :=
      trail_congr (by omega)
    have last : trail (((n * 0x40 + x) * 0x40 + y) * 0x40 + z) = trail z := trail_congr (by omega)
    rwa [same, first, second, third, last] at bytes

/-- What has no broken piece starts with the bytes of a character. -/
theorem exists_char {b : UInt8} (whole : none ∉ piecesFrom none (b :: rest)) :
    ∃ c behind, b :: rest = String.utf8EncodeChar c ++ behind := by
  have follows := UInt8.le_refl 0x80
  have follows' := UInt8.le_refl 0xBF
  rw [piecesFrom, step, List.mem_append, not_or] at whole
  · obtain ⟨first, others⟩ := whole
    obtain ⟨n, one, rfl⟩ | ⟨n, two, least, rfl⟩ | ⟨n, three, rfl⟩ | ⟨n, four, rfl⟩ | broken :=
      lead_cases b
    · exact ⟨_, rest, congrArg (· ++ rest) (encodeChar_one one).symm⟩
    · rw [lead_two n two least] at others
      obtain ⟨x, rest, rfl, small, -⟩ := exists_trail others follows follows'
      exact ⟨_, rest, congrArg (· ++ rest) (encodeChar_two least two small).symm⟩
    · rw [lead_three n three] at others
      obtain ⟨x, rest, rfl, small, lower, upper⟩ := exists_trail others
        (by dsimp only; split <;> decide) (by dsimp only; split <;> decide)
      rw [piecesFrom_trail rfl lower upper] at others
      obtain ⟨y, rest, rfl, small', -⟩ := exists_trail others follows follows'
      simp only [UInt8.le_iff_toNat_le, toNat_trail] at lower upper
      refine ⟨_, rest, congrArg (· ++ rest) (encodeChar_three three ?_ ?_ small small').symm⟩
      · rintro rfl
        change 0xA0 ≤ _ at lower
        omega
      · rintro rfl
        change _ ≤ 0x9F at upper
        omega
    · rw [lead_four n four] at others
      obtain ⟨x, rest, rfl, small, lower, upper⟩ := exists_trail others
        (by dsimp only; split <;> decide) (by dsimp only; split <;> decide)
      rw [piecesFrom_trail rfl lower upper] at others
      obtain ⟨y, rest, rfl, small', -⟩ := exists_trail others follows follows'
      rw [piecesFrom_trail rfl (trail_lower _) (trail_upper _)] at others
      obtain ⟨z, rest, rfl, small'', -⟩ := exists_trail others follows follows'
      simp only [UInt8.le_iff_toNat_le, toNat_trail] at lower upper
      refine ⟨_, rest, congrArg (· ++ rest) (encodeChar_four four ?_ ?_ small small' small'').symm⟩
      · rintro rfl
        change 0x90 ≤ _ at lower
        omega
      · rintro rfl
        change _ ≤ 0x8F at upper
        omega
    · exact absurd broken first

/-- Bytes without a broken piece are the bytes of a text. -/
theorem exists_encode {bytes : List UInt8} (whole : none ∉ pieces bytes) :
    ∃ cs, bytes = encode cs := by
  induction size : bytes.length using Nat.strongRecOn generalizing bytes with
  | ind length ih =>
    cases bytes with
    | nil => exact ⟨[], rfl⟩
    | cons b rest =>
        obtain ⟨c, behind, split⟩ := exists_char whole
        have shorter : behind.length < length := by
          have positive := c.utf8Size_pos
          rw [split, List.length_append, String.length_utf8EncodeChar] at size
          omega
        rw [split, pieces, piecesFrom_encodeChar, List.mem_cons, not_or] at whole
        obtain ⟨cs, same⟩ := ih behind.length shorter whole.2 rfl
        exact ⟨c :: cs, by rw [split, same, encode_cons]⟩

/-- What is read is the text whose bytes these are. -/
theorem decode?_eq_some_iff {bytes : List UInt8} {cs : List Char} :
    decode? bytes = some cs ↔ bytes = encode cs := by
  constructor
  · intro decoded
    have whole := pieces_of_decode? decoded
    obtain ⟨text, rfl⟩ := exists_encode (by simp [whole] : none ∉ pieces bytes)
    rw [decode?_encode] at decoded
    rw [Option.some.inj decoded]
  · rintro rfl
    exact decode?_encode cs

end Enrollment.Utf8
