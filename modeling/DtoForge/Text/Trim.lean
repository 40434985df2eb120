/-
Trimming and splitting.

Text is handled as a list of characters wherever it is taken apart.
-/
import DtoForge.Character.Blank

namespace DtoForge.Text

/-! ### White space at the ends -/

/-- The text without the white space it starts with. -/
def trimStart (s : List Char) : List Char :=
  s.dropWhile isBlank

/-- The text without the white space it ends with. -/
def trimEnd : List Char → List Char
  | [] => []
  | c :: r =>
    match trimEnd r with
    | [] => if isBlank c then [] else [c]
    | kept => c :: kept

/-- The text without the white space around it. -/
def trim (s : List Char) : List Char :=
  trimEnd (trimStart s)

/-! ### Cutting at characters -/

/-- The pieces between the characters that `cut` accepts.  There is always one piece
more than there are such characters. -/
def splitWhere (cut : Char → Bool) : List Char → List (List Char)
  | [] => [[]]
  | c :: r =>
    if cut c then [] :: splitWhere cut r
    else match splitWhere cut r with
      | [] => [[c]]
      | piece :: pieces => (c :: piece) :: pieces

/-- The pieces between the occurrences of one character. -/
def splitAt (sep : Char) (s : List Char) : List (List Char) :=
  splitWhere (· == sep) s

theorem splitWhere_ne_nil (cut : Char → Bool) (s : List Char) : splitWhere cut s ≠ [] := by
  cases s with
  | nil => simp [splitWhere]
  | cons c r =>
    unfold splitWhere
    split
    · simp
    · split <;> simp

/-- A text without a cut is one piece. -/
theorem splitWhere_eq_singleton {cut : Char → Bool} {s : List Char}
    (h : ∀ c ∈ s, cut c = false) : splitWhere cut s = [s] := by
  induction s with
  | nil => rfl
  | cons c r ih =>
    have hc := h c (by simp)
    have hr := ih fun d hd => h d (by simp [hd])
    simp [splitWhere, hc, hr]

end DtoForge.Text
