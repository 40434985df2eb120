/-
Byte offsets in a text.

A text can be cut where a character begins or where it ends, and its UTF-8 bytes have more offsets
than that.  A cut at any other offset fails.  Where a character is looked for, the offsets that are
found are those of characters, so cuts there are safe.
-/
import Mathlib.Data.String.Basic

namespace DtoForge.Text

open String (utf8Len)

/-! ### Cutting at offsets -/

/-- The part of a text between two byte offsets, if the text can be cut at both. -/
def slice? (s : String) (first last : Nat) : Option String :=
  if (⟨first⟩ : String.Pos.Raw).IsValid s ∧ (⟨last⟩ : String.Pos.Raw).IsValid s ∧ first ≤ last then
    some (String.Pos.Raw.extract s ⟨first⟩ ⟨last⟩)
  else none

/-- A text can be cut behind any part that it begins with. -/
theorem isValid_utf8Len (x y : List Char) :
    (⟨utf8Len x⟩ : String.Pos.Raw).IsValid (String.ofList (x ++ y)) := by
  rw [String.Pos.Raw.isValid_iff_exists_append]
  exact ⟨String.ofList x, String.ofList y, String.ofList_append, (String.rawEndPos_ofList x).symm⟩

theorem slice?_append (x y z : List Char) :
    slice? (String.ofList (x ++ (y ++ z))) (utf8Len x) (utf8Len x + utf8Len y)
      = some (String.ofList y) := by
  have hlast := isValid_utf8Len (x ++ y) z
  rw [String.utf8Len_append, List.append_assoc] at hlast
  rw [slice?, if_pos ⟨isValid_utf8Len x (y ++ z), hlast, Nat.le_add_right _ _⟩,
    ← List.append_assoc, String.extract_of_valid]

theorem slice?_prefix (x y : List Char) :
    slice? (String.ofList (x ++ y)) 0 (utf8Len x) = some (String.ofList x) := by
  have h := slice?_append [] x y
  rwa [List.nil_append, String.utf8Len_nil, Nat.zero_add] at h

theorem slice?_suffix (x y : List Char) :
    slice? (String.ofList (x ++ y)) (utf8Len x) (String.ofList (x ++ y)).utf8ByteSize
      = some (String.ofList y) := by
  have h := slice?_append x y []
  rwa [List.append_nil, ← String.utf8Len_append, ← String.utf8ByteSize_ofList (x ++ y)] at h

/-! ### Looking for a character -/

/-- The byte offsets at which a character stands. -/
def offsetsOf (mark : Char) : List Char → List Nat
  | [] => []
  | c :: r =>
    if c = mark then 0 :: (offsetsOf mark r).map (c.utf8Size + ·)
    else (offsetsOf mark r).map (c.utf8Size + ·)

/-- The offsets behind a part of a text are those of the rest, counted from behind the part. -/
theorem offsetsOf_append (mark : Char) (x y : List Char) :
    offsetsOf mark (x ++ y) = offsetsOf mark x ++ (offsetsOf mark y).map (utf8Len x + ·) := by
  induction x with
  | nil => simp [offsetsOf]
  | cons c x ih =>
      have hmap : ((offsetsOf mark y).map (utf8Len x + ·)).map (c.utf8Size + ·)
          = (offsetsOf mark y).map (utf8Len (c :: x) + ·) := by
        rw [List.map_map]
        refine List.map_congr_left fun n _ => ?_
        rw [Function.comp_apply, String.utf8Len_cons]
        omega
      rw [List.cons_append, offsetsOf, offsetsOf, ih, List.map_append, hmap]
      split <;> rfl

theorem offsetsOf_eq_nil {mark : Char} {s : List Char} (h : mark ∉ s) : offsetsOf mark s = [] := by
  induction s with
  | nil => rfl
  | cons c s ih =>
      simp only [List.mem_cons, not_or] at h
      rw [offsetsOf, if_neg (Ne.symm h.1), ih h.2, List.map_nil]

/-- The first place of a character is behind all that stands in front of it. -/
theorem head?_offsetsOf {mark : Char} {x : List Char} (h : mark ∉ x) (y : List Char) :
    (offsetsOf mark (x ++ mark :: y)).head? = some (utf8Len x) := by
  rw [offsetsOf_append, offsetsOf_eq_nil h, offsetsOf, if_pos rfl]
  rfl

/-- So is the last one. -/
theorem getLast?_offsetsOf {mark : Char} {y : List Char} (h : mark ∉ y) (x : List Char) :
    (offsetsOf mark (x ++ mark :: y)).getLast? = some (utf8Len x) := by
  rw [offsetsOf_append, offsetsOf, if_pos rfl, offsetsOf_eq_nil h]
  exact List.getLast?_concat

end DtoForge.Text
