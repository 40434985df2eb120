/-
Letters and digits of ASCII.

Names are made of them, and every character table treats them apart from the rest.  Here
they are put down as ranges of code points, and everything else is arithmetic.
-/
import DtoForge.Character.Alphanumeric
import DtoForge.Character.Word

namespace DtoForge

/-- The letters and digits of ASCII as ranges. -/
theorem isAlphanum_iff (c : Char) :
    c.isAlphanum = true ↔
      (65 ≤ c.toNat ∧ c.toNat ≤ 90) ∨ (97 ≤ c.toNat ∧ c.toNat ≤ 122) ∨
        (48 ≤ c.toNat ∧ c.toNat ≤ 57) := by
  show ((decide ('A'.val ≤ c.val ∧ c.val ≤ 'Z'.val)
      || (decide ('a'.val ≤ c.val) && decide (c.val ≤ 'z'.val)))
      || (decide ('0'.val ≤ c.val) && decide (c.val ≤ '9'.val))) = true ↔ _
  simp only [Bool.or_eq_true, Bool.and_eq_true, decide_eq_true_eq, UInt32.le_iff_toNat_le,
    or_assoc]
  rfl

theorem toNat_lt_of_isAlphanum {c : Char} (h : c.isAlphanum = true) : c.toNat < 128 := by
  have := (isAlphanum_iff c).mp h
  omega

theorem isWord_of_alphanum {c : Char} (h : c.isAlphanum = true) : isWord c = true :=
  isWord_of_isAlphanum h (toNat_lt_of_isAlphanum h)

end DtoForge
