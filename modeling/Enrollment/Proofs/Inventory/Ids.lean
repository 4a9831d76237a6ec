import Enrollment.Inventory.Store

/-!
# The ids that a store draws

An id is the kind of record and a number that is padded to four digits. Padding does not
confuse numbers, so that an id with a higher number than all that have been drawn is new.
-/

namespace Enrollment

/-- Zeros in front of a number do not change it. -/
theorem Duration.ofDigitChars_zeroPadded (width n : Nat) :
    Nat.ofDigitChars 10 (zeroPadded width n) 0 = n := by
  rw [zeroPadded, Nat.ofDigitChars_append, Nat.ofDigitChars_replicate_zero, Nat.mul_zero]
  exact Nat.ofDigitChars_ten_toDigits

theorem Duration.zeroPadded_injective (width : Nat) : Function.Injective (zeroPadded width) := by
  intro m n same
  rw [← ofDigitChars_zeroPadded width m, same, ofDigitChars_zeroPadded]

namespace Inventory.Store

theorem toList_idText (kind : String) (n : Nat) :
    (idText kind n).toList = kind.toList ++ '-' :: Duration.zeroPadded 4 n := by
  have whole : idText kind n = kind ++ "-" ++ String.ofList (Duration.zeroPadded 4 n) := rfl
  rw [whole]
  simp only [String.toList_append, String.toList_ofList, List.append_assoc]
  rfl

theorem idText_injective (kind : String) : Function.Injective (idText kind) := by
  intro m n same
  have texts := congrArg String.toList same
  rw [toList_idText, toList_idText, List.append_right_inj] at texts
  exact Duration.zeroPadded_injective 4 (List.cons.inj texts).2

theorem idText_ne_empty (kind : String) (n : Nat) : idText kind n ≠ "" := by
  intro empty
  have texts := congrArg String.toList empty
  rw [toList_idText] at texts
  exact absurd texts (by simp)

end Inventory.Store

end Enrollment
