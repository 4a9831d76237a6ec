import Enrollment.Text.Blank
import Mathlib.Data.List.TakeWhile

/-!
# Texts without the white space around them

A text is cut from both ends as far as the characters satisfy a predicate. `Trimmed` says what
stays: no such character is at either end of it, and none but such characters are around it. There
is no other text of which this can be said.
-/

namespace Enrollment.Text

variable {p : Char → Bool} {cs text : List Char}

/-- This is what stays of `cs` without the characters at either end that satisfy `p`. -/
structure Trimmed (p : Char → Bool) (cs text : List Char) : Prop where
  around : ∃ front back, cs = front ++ text ++ back ∧ ∀ c ∈ front ++ back, p c = true
  first : ∀ c ∈ text.head?, ¬ p c = true
  last : ∀ c ∈ text.getLast?, ¬ p c = true

theorem dropWhile_of_head? (first : ∀ c ∈ text.head?, ¬ p c = true) : text.dropWhile p = text := by
  cases text with
  | nil => rfl
  | cons c rest => exact List.dropWhile_cons_of_neg (first c rfl)

theorem not_of_head?_dropWhile {c : Char} (first : c ∈ (cs.dropWhile p).head?) :
    ¬ p c = true := by
  have stops := List.head?_dropWhile_not p cs
  rw [Option.mem_def.mp first] at stops
  exact Bool.eq_false_iff.mp stops

theorem trimmed_stripWhere (p : Char → Bool) (cs : List Char) :
    Trimmed p cs (stripWhere p cs) := by
  have front := List.takeWhile_append_dropWhile (p := p) (l := cs)
  have starts : ∀ c ∈ (cs.dropWhile p).head?, ¬ p c = true := fun _ => not_of_head?_dropWhile
  rw [stripWhere]
  generalize cs.dropWhile p = rest at front starts ⊢
  have back := congrArg List.reverse (List.takeWhile_append_dropWhile (p := p) (l := rest.reverse))
  rw [List.reverse_append, List.reverse_reverse] at back
  refine ⟨⟨cs.takeWhile p, (rest.reverse.takeWhile p).reverse, ?_, ?_⟩, ?_, ?_⟩
  · rw [List.append_assoc, back, front]
  · intro c member
    rcases List.mem_append.mp member with inFront | inBack
    · exact List.mem_takeWhile_imp inFront
    · exact List.mem_takeWhile_imp (List.mem_reverse.mp inBack)
  · intro c first
    refine starts c ?_
    rw [← back, List.head?_append, Option.mem_def.mp first]
    rfl
  · intro c last
    rw [List.getLast?_reverse] at last
    exact not_of_head?_dropWhile last

/-- Nothing else stays. -/
theorem Trimmed.eq (h : Trimmed p cs text) : text = stripWhere p cs := by
  obtain ⟨⟨front, back, rfl, blank⟩, first, last⟩ := h
  have inFront : ∀ c ∈ front, p c = true := fun c member => blank c (List.mem_append_left _ member)
  have inBack : ∀ c ∈ back, p c = true := fun c member => blank c (List.mem_append_right _ member)
  rw [stripWhere, List.append_assoc, List.dropWhile_append_of_pos inFront]
  cases text with
  | nil =>
      rw [List.nil_append, List.dropWhile_eq_nil_iff.mpr inBack]
      rfl
  | cons c rest =>
      have reversed : ∀ c ∈ back.reverse, p c = true := fun c member =>
        inBack c (List.mem_reverse.mp member)
      rw [List.cons_append, List.dropWhile_cons_of_neg (first c rfl), ← List.cons_append,
        List.reverse_append, List.dropWhile_append_of_pos reversed, dropWhile_of_head?,
        List.reverse_reverse]
      rwa [List.head?_reverse]

/-- Nothing stays if and only if all characters satisfy the predicate. -/
theorem stripWhere_eq_nil_iff : stripWhere p cs = [] ↔ ∀ c ∈ cs, p c = true := by
  constructor
  · intro empty
    obtain ⟨front, back, same, blank⟩ := (trimmed_stripWhere p cs).around
    rwa [same, empty, List.append_nil]
  · intro all
    rw [stripWhere, List.dropWhile_eq_nil_iff.mpr all]
    rfl

end Enrollment.Text
