import Enrollment.Json.Layout
import Enrollment.Proofs.Json.Lexical
import Enrollment.Proofs.Json.Quoted

/-!
# Reading written values back

A value may stand in the middle of a text: in a list, or behind a key. So a written form is read
back from the front of a text, whatever follows it, and what follows it is left. `Reads` says
this of a reader, a written form and a value; it also says that the written form starts with a
byte that cannot be mistaken for white space or for the end of a list.
-/

namespace Enrollment.Json

variable {α β : Type} {x : Reader α} {v : List Char} {a : α} {rest : Bytes}

/-- `x` reads the value `a` from the written form `v`, whatever stands behind it. -/
structure Reads (x : Reader α) (v : List Char) (a : α) : Prop where
  opens : ∃ b more, Utf8.encode v = b :: more ∧ isSpace b = false ∧ b ≠ Mark.closeList
  run : ∀ rest, x.run (Utf8.encode v ++ rest) = .ok (a, rest)

theorem Reads.map (h : Reads x v a) (f : α → β) : Reads (x.map f) v (f a) where
  opens := h.opens
  run rest := by
    change (x.run _).map _ = _
    rw [h.run]
    rfl

/-- A whole text that holds one written value. -/
theorem Reads.decode (h : Reads x v a) : x.decode (Utf8.encode v) = .ok a := by
  have whole := h.run []
  rw [List.append_nil] at whole
  rw [Reader.decode, whole]
  rfl

/-! ## Texts -/

theorem encode_quote (s : String) (rest : Bytes) : Utf8.encode (quote s) ++ rest =
    Mark.quote :: (Utf8.encode (s.toList.flatMap quotedChar) ++ Mark.quote :: rest) := by
  simp only [quote, Utf8.encode_cons, Utf8.encode_append, Utf8.encode_nil, List.append_nil,
    List.append_assoc]
  rfl

theorem textBody_written (s : String) (rest : Bytes) :
    textBody (Utf8.encode (s.toList.flatMap quotedChar) ++ Mark.quote :: rest) = .ok (s, rest) := by
  rw [textBody, unescape_written]
  simp only [Utf8.decode?_encode, String.ofList_toList]

theorem readText_quote (s : String) (rest : Bytes) :
    readText (Utf8.encode (quote s) ++ rest) = .ok (s, rest) := by
  rw [encode_quote, readText, skipSpace_of_not_isSpace rfl]
  exact textBody_written s rest

theorem opens_quote (s : String) :
    ∃ b more, Utf8.encode (quote s) = b :: more ∧ isSpace b = false ∧ b ≠ Mark.closeList := by
  have bytes := encode_quote s []
  rw [List.append_nil] at bytes
  exact ⟨_, _, bytes, rfl, by decide⟩

theorem reads_text (s : String) : Reads Reader.text (quote s) s where
  opens := opens_quote s
  run := readText_quote s

theorem reads_optionalText (s : String) : Reads Reader.optionalText (quote s) (some s) where
  opens := opens_quote s
  run rest := by
    have text := readText_quote s rest
    change readOptionalText (Utf8.encode (quote s) ++ rest) = _
    rw [encode_quote] at text ⊢
    rw [readOptionalText, skipSpace_of_not_isSpace rfl]
    simp only [if_neg (show Mark.quote ≠ Mark.letter 'n' by decide), text]
    rfl

/-! ## Lists -/

/-- Parts with commas between them, and in front of the first one unless it is `first`. -/
def joined (first : Bool) (parts : List (List Char)) : List Char :=
  if first then [','].intercalate parts else parts.flatMap (',' :: ·)

theorem joined_nil (first : Bool) : joined first [] = [] := by
  cases first <;> rfl

theorem joined_cons (first : Bool) (part : List Char) (parts : List (List Char)) :
    joined first (part :: parts) =
      (if first then [] else [',']) ++ (part ++ joined false parts) := by
  cases first with
  | false => rfl
  | true =>
      induction parts generalizing part with
      | nil => simp [joined, List.intercalate]
      | cons next parts ih =>
          have tail := ih next
          simp only [joined, if_true, List.intercalate_cons_cons] at tail ⊢
          rw [tail]
          simp

/-- The list ends, whether or not an item has been read. -/
theorem readItems_of_close {first : Bool} {s : Bytes}
    (skip : skipSpace s = Mark.closeList :: rest) : readItems x first s = .ok ([], rest) := by
  rw [readItems]
  split
  · next ended => cases skip.symm.trans ended
  · next same =>
    cases skip.symm.trans same
    rw [if_pos rfl]

/-- An item and the items that are left. -/
def readOn (x : Reader α) (s : Bytes) : Except Fault (List α × Bytes) :=
  match x.run s with
  | .error e => .error e
  | .ok (a, rest) =>
    match readItems x false rest with
    | .error e => .error e
    | .ok (more, rest) => .ok (a :: more, rest)

theorem readOn_error {s : Bytes} {fault : Fault} (failed : x.run s = .error fault) :
    readOn x s = .error fault := by
  rw [readOn, failed]

theorem readOn_ok {s behind : Bytes} (read : x.run s = .ok (a, behind)) :
    readOn x s =
      match readItems x false behind with
      | .error e => .error e
      | .ok (more, rest) => .ok (a :: more, rest) := by
  rw [readOn, read]

theorem readItems_first {s r : Bytes} {b : UInt8} (skip : skipSpace s = b :: r)
    (item : b ≠ Mark.closeList) : readItems x true s = readOn x s := by
  rw [readItems]
  split
  · next ended => cases skip.symm.trans ended
  · next same =>
    cases skip.symm.trans same
    rw [if_neg item, if_pos rfl]
    split
    · next failed => exact (readOn_error failed).symm
    · next read => exact (readOn_ok read).symm

theorem readItems_next {s t r : Bytes} {b : UInt8} (comma : skipSpace s = Mark.comma :: t)
    (skip : skipSpace t = b :: r) (item : b ≠ Mark.closeList) :
    readItems x false s = readOn x t := by
  rw [readItems]
  split
  · next ended => cases comma.symm.trans ended
  · next same =>
    cases comma.symm.trans same
    rw [if_neg (by decide), if_neg (by decide), if_pos rfl]
    simp only [skip, if_neg item]
    split
    · next failed => exact (readOn_error failed).symm
    · next read => exact (readOn_ok read).symm

theorem readOn_of_run {s behind : Bytes} {as : List α} (read : x.run s = .ok (a, behind))
    (others : readItems x false behind = .ok (as, rest)) : readOn x s = .ok (a :: as, rest) := by
  rw [readOn_ok read, others]

/-- One more item, behind a comma unless it is the first. -/
theorem readItems_item {as : List α} (h : Reads x v a) (first : Bool) {more : Bytes}
    (others : readItems x false more = .ok (as, rest)) :
    readItems x first (Utf8.encode (if first then [] else [',']) ++ (Utf8.encode v ++ more)) =
      .ok (a :: as, rest) := by
  obtain ⟨b, bytes, opened, solid, item⟩ := h.opens
  have skip : skipSpace (Utf8.encode v ++ more) = b :: (bytes ++ more) := by
    rw [opened, List.cons_append, skipSpace_of_not_isSpace solid]
  have read := readOn_of_run (h.run more) others
  cases first with
  | true => exact (readItems_first skip item).trans read
  | false => exact (readItems_next (skipSpace_of_not_isSpace rfl) skip item).trans read

/-- Items with commas between them are read back up to the bracket that closes the list. -/
theorem readItems_joined {write : α → List Char} {as : List α}
    (reads : ∀ a ∈ as, Reads x (write a) a) (first : Bool) (rest : Bytes) :
    readItems x first (Utf8.encode (joined first (as.map write)) ++ Mark.closeList :: rest) =
      .ok (as, rest) := by
  induction as generalizing first with
  | nil =>
      rw [List.map_nil, joined_nil]
      exact readItems_of_close (skipSpace_of_not_isSpace rfl)
  | cons a as ih =>
      have others := ih (fun b inside => reads b (List.mem_cons_of_mem _ inside)) false
      rw [List.map_cons, joined_cons, Utf8.encode_append, Utf8.encode_append, List.append_assoc,
        List.append_assoc]
      exact readItems_item (reads a List.mem_cons_self) first others

theorem encode_bracketed (items : List (List Char)) (rest : Bytes) :
    Utf8.encode (Field.bracketed items) ++ rest =
      Mark.openList :: (Utf8.encode (joined true items) ++ Mark.closeList :: rest) := by
  simp only [Field.bracketed, Utf8.encode_cons, Utf8.encode_append, Utf8.encode_nil,
    List.append_nil, List.append_assoc]
  rfl

theorem Reads.list {write : α → List Char} {as : List α} (reads : ∀ a ∈ as, Reads x (write a) a) :
    Reads (Reader.list x) (Field.bracketed (as.map write)) as where
  opens := by
    have bytes := encode_bracketed (as.map write) []
    rw [List.append_nil] at bytes
    exact ⟨_, _, bytes, rfl, by decide⟩
  run rest := by
    change readList x (Utf8.encode (Field.bracketed (as.map write)) ++ rest) = _
    rw [encode_bracketed, readList, skipSpace_of_not_isSpace rfl]
    exact readItems_joined reads true rest

/-! ## Whatever items a list has -/

variable {P : α → Prop} {s : Bytes} {as : List α}

theorem forall_mem_of_readItems {first : Bool}
    (item : ∀ s a rest, x.run s = .ok (a, rest) → P a)
    (h : readItems x first s = .ok (as, rest)) : ∀ a ∈ as, P a := by
  fun_induction readItems x first s generalizing as rest with
  | case2 =>
      cases h
      exact List.forall_mem_nil _
  | case5 _ _ _ _ _ _ _ _ read _ _ _ others ih =>
      cases h
      exact List.forall_mem_cons.mpr ⟨item _ _ _ read, ih others⟩
  | case10 _ _ _ _ _ _ _ _ _ _ read _ _ _ others _ _ _ ih =>
      cases h
      exact List.forall_mem_cons.mpr ⟨item _ _ _ read, ih others⟩
  | _ => cases h

theorem forall_mem_of_readList (item : ∀ s a rest, x.run s = .ok (a, rest) → P a)
    (h : readList x s = .ok (as, rest)) : ∀ a ∈ as, P a := by
  unfold readList at h
  split at h
  · cases h
  · split at h
    · exact forall_mem_of_readItems item h
    · cases h

end Enrollment.Json
