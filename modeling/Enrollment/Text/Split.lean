/-!
# Cutting a text

A text is cut at the characters that satisfy a predicate. There is one piece more than there
are cuts, so the list of pieces is never empty.
-/

namespace Enrollment.Text

/-- The pieces of `cs` between the characters that satisfy `p`. -/
def splitWhere (p : Char → Bool) : List Char → List (List Char)
  | [] => [[]]
  | c :: cs =>
    match splitWhere p cs with
    | [] => [[c]]
    | piece :: pieces => if p c then [] :: piece :: pieces else (c :: piece) :: pieces

def splitAt (separator : Char) (cs : List Char) : List (List Char) :=
  splitWhere (· = separator) cs

/-- What stands before and behind the first `separator`. -/
def cutFirst (separator : Char) (cs : List Char) : List Char × Option (List Char) :=
  match cs.span (· ≠ separator) with
  | (before, []) => (before, none)
  | (before, _ :: behind) => (before, some behind)

/-- What stands before and behind the last `separator`. -/
def cutLast (separator : Char) (cs : List Char) : Option (List Char × List Char) :=
  match cs.reverse.span (· ≠ separator) with
  | (_, []) => none
  | (behind, _ :: before) => some (before.reverse, behind.reverse)

theorem splitWhere_ne_nil (p : Char → Bool) (cs : List Char) : splitWhere p cs ≠ [] := by
  cases cs with
  | nil => simp [splitWhere]
  | cons c cs =>
    rw [splitWhere]
    split
    · simp
    · split <;> simp

/-- A separator ends the pieces in front of it. -/
theorem splitAt_append_cons (separator : Char) (before behind : List Char) :
    splitAt separator (before ++ separator :: behind) =
      splitAt separator before ++ splitAt separator behind := by
  simp only [splitAt]
  induction before with
  | nil =>
    rw [List.nil_append, splitWhere]
    cases rest : splitWhere (· = separator) behind with
    | nil => exact absurd rest (splitWhere_ne_nil _ behind)
    | cons piece pieces => simp [splitWhere, rest]
  | cons c cs ih =>
    rw [List.cons_append, splitWhere, splitWhere, ih]
    cases front : splitWhere (· = separator) cs with
    | nil => exact absurd front (splitWhere_ne_nil _ cs)
    | cons piece pieces =>
      dsimp only [List.cons_append]
      split <;> rfl

example : splitAt '.' ['a', '.', '.', 'b'] = [['a'], [], ['b']] := by decide

example : cutLast '@' ['a', '@', 'b', '@', 'c'] = some (['a', '@', 'b'], ['c']) := by decide

end Enrollment.Text
