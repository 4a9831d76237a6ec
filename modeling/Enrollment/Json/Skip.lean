import Enrollment.Json.Number
import Enrollment.Json.Text

/-!
# Passing over a value

A value nobody looks at is passed over with an explicit stack of the lists and objects that
are open, so that its depth costs no recursion. How texts and numbers are passed over, and
how deep a value may be, is a parameter: members with an unknown name are read by the
`lenient` leaves, a whole text that has to be JSON by the `strict` ones.
-/

namespace Enrollment.Json

/-- How the leaves of a value are passed over. `number` is given whether a minus sign has
been read; `maxDepth` bounds the open lists and objects. -/
structure Leaves where
  text : Bytes → Except Fault Bytes
  number : Bool → Bytes → Except Fault Bytes
  maxDepth : Option Nat
  text_shorter : ∀ {s r}, text s = .ok r → r.length < s.length
  number_shorter : ∀ {b s r}, number b s = .ok r → r.length < s.length

/-- Only the grammar is checked, at any depth. -/
def Leaves.lenient : Leaves where
  text := skipText
  number := fun _ => skipUnsigned
  maxDepth := none
  text_shorter := length_skipText_lt
  number_shorter := length_skipUnsigned_lt

/-- A list or an object that is open. -/
inductive Frame where
  | list
  | object
  deriving DecidableEq, Repr

def Frame.opening : UInt8 → Option Frame := fun b =>
  if b = Mark.openList then some .list
  else if b = Mark.openObject then some .object
  else none

def Frame.closing : Frame → UInt8
  | list => Mark.closeList
  | object => Mark.closeObject

/-- The fault of a text that ends between two members. -/
def Frame.ended : Frame → Fault
  | list => .endInList
  | object => .endInObject

/-- The fault of a member that is followed by neither a comma nor the end. -/
def Frame.unseparated : Frame → Fault
  | list => .expectedCommaInList
  | object => .expectedCommaInObject

/-- Passes over a word, a text or a number whose first byte is `b`. -/
def Leaves.leaf (l : Leaves) (b : UInt8) (s : Bytes) : Except Fault Bytes :=
  if b = Mark.letter 'n' then expectWord wordNull s
  else if b = Mark.letter 't' then expectWord wordTrue s
  else if b = Mark.letter 'f' then expectWord wordFalse s
  else if b = Mark.minus then l.number true s
  else if isDigit b then l.number false (b :: s)
  else if b = Mark.quote then l.text s
  else .error .expectedValue

theorem Leaves.length_leaf_lt {l : Leaves} {b : UInt8} {s r : Bytes}
    (h : l.leaf b s = .ok r) : r.length < (b :: s).length := by
  unfold Leaves.leaf at h
  have word {w : Bytes} (h : expectWord w s = .ok r) : r.length < (b :: s).length := by
    have := length_expectWord_le h
    simp only [List.length_cons]
    omega
  have tail (h : r.length < s.length) : r.length < (b :: s).length := by
    simp only [List.length_cons]
    omega
  split at h
  · exact word h
  split at h
  · exact word h
  split at h
  · exact word h
  split at h
  · exact tail (l.number_shorter h)
  split at h
  · exact l.number_shorter h
  split at h
  · exact tail (l.text_shorter h)
  · cases h

mutual

/-- Passes over a value inside the open frames, and over all that closes them. -/
def Leaves.value (l : Leaves) (frames : List Frame) (s : Bytes) : Except Fault Bytes :=
  match h : skipSpace s with
  | [] => .error .endInValue
  | b :: r =>
    have : r.length < s.length := length_lt_of_skipSpace h
    match Frame.opening b with
    | some frame =>
      if l.maxDepth.any (· ≤ frames.length) then .error .tooDeep
      else l.member frame true frames r
    | none =>
      match h' : l.leaf b r with
      | .error e => .error e
      | .ok rest =>
        have : rest.length < r.length + 1 := l.length_leaf_lt h'
        match frames with
        | [] => .ok rest
        | frame :: frames => l.member frame false frames rest
termination_by (s.length, 0)

/-- What stands between two members of `frame`, or in front of its first one. -/
def Leaves.member (l : Leaves) (frame : Frame) (first : Bool) (frames : List Frame) (s : Bytes) :
    Except Fault Bytes :=
  match h : skipSpace s with
  | [] => .error frame.ended
  | b :: r =>
    have : r.length < s.length := length_lt_of_skipSpace h
    if b = frame.closing then
      match frames with
      | [] => .ok r
      | outer :: frames => l.member outer false frames r
    else if first then l.keyed frame frames s
    else if b = Mark.comma then l.keyed frame frames r
    else .error frame.unseparated
termination_by (s.length, 2)

/-- The next member of `frame`, in an object behind its key. -/
def Leaves.keyed (l : Leaves) (frame : Frame) (frames : List Frame) (s : Bytes) :
    Except Fault Bytes :=
  match frame with
  | .list => l.value (.list :: frames) s
  | .object =>
    match h : skipSpace s with
    | [] => .error .endInObject
    | b :: r =>
      have : r.length < s.length := length_lt_of_skipSpace h
      if b ≠ Mark.quote then .error .keyNotText
      else
        match h' : l.text r with
        | .error e => .error e
        | .ok r =>
          have := l.text_shorter h'
          match h'' : skipSpace r with
          | [] => .error .endInObject
          | b :: r =>
            have := length_lt_of_skipSpace h''
            if b ≠ Mark.colon then .error .expectedColon
            else l.value (.object :: frames) r
termination_by (s.length, 1)

end

/-- Passing over a value, a member or a key takes something off the text. -/
theorem Leaves.length_lt_of_size (l : Leaves) (n : Nat) :
    (∀ frames s rest, s.length ≤ n → l.value frames s = .ok rest → rest.length < s.length) ∧
    (∀ frame first frames s rest, s.length ≤ n → l.member frame first frames s = .ok rest →
      rest.length < s.length) ∧
    (∀ frame frames s rest, s.length ≤ n → l.keyed frame frames s = .ok rest →
      rest.length < s.length) := by
  induction n using Nat.strongRecOn with
  | ind n ih =>
    have value : ∀ frames s rest, s.length ≤ n → l.value frames s = .ok rest →
        rest.length < s.length := by
      intro frames s rest hn h
      rw [Leaves.value] at h
      split at h
      · cases h
      · next b r hs =>
        have hr := length_lt_of_skipSpace hs
        split at h
        · split at h
          · cases h
          · have := (ih r.length (by omega)).2.1 _ _ _ _ _ (Nat.le_refl _) h
            omega
        · split at h
          · cases h
          · next hl =>
            have hrest := l.length_leaf_lt hl
            simp only [List.length_cons] at hrest
            split at h
            · cases h
              omega
            · have := (ih _ (by omega)).2.1 _ _ _ _ _ (Nat.le_refl _) h
              omega
    have keyed : ∀ frame frames s rest, s.length ≤ n → l.keyed frame frames s = .ok rest →
        rest.length < s.length := by
      intro frame frames s rest hn h
      rw [Leaves.keyed.eq_def] at h
      split at h
      · exact value _ _ _ hn h
      · split at h
        · cases h
        · next b r hs =>
          have hr := length_lt_of_skipSpace hs
          split at h
          · cases h
          · split at h
            · cases h
            · next ht =>
              have hr' := l.text_shorter ht
              split at h
              · cases h
              · next hc =>
                have hc' := length_lt_of_skipSpace hc
                split at h
                · cases h
                · have := (ih _ (by omega)).1 _ _ _ (Nat.le_refl _) h
                  omega
    refine ⟨value, ?_, keyed⟩
    intro frame first frames s rest hn h
    rw [Leaves.member] at h
    split at h
    · cases h
    · next b r hs =>
      have hr := length_lt_of_skipSpace hs
      split at h
      · split at h
        · cases h
          omega
        · have := (ih _ (by omega)).2.1 _ _ _ _ _ (Nat.le_refl _) h
          omega
      · split at h
        · exact keyed _ _ _ _ hn h
        · split at h
          · have := (ih _ (by omega)).2.2 _ _ _ _ (Nat.le_refl _) h
            omega
          · cases h

theorem Leaves.length_value_lt {l : Leaves} {frames : List Frame} {s rest : Bytes}
    (h : l.value frames s = .ok rest) : rest.length < s.length :=
  (l.length_lt_of_size s.length).1 _ _ _ (Nat.le_refl _) h

/-- Passes over one value of which nothing is kept. -/
def skipValue (s : Bytes) : Except Fault Bytes := Leaves.lenient.value [] s

theorem length_skipValue_lt {s r : Bytes} (h : skipValue s = .ok r) : r.length < s.length :=
  Leaves.length_value_lt h

end Enrollment.Json
