/-
Looking for a mark in a text.

A mark is found at its leftmost place.  A search may also look at what follows the
mark, and then the leftmost place is taken among those that it accepts.
-/
namespace DtoForge.Text

/-- Whether the mark stands somewhere in the text. -/
def occurs (mark : List Char) : List Char → Bool
  | [] => mark.isEmpty
  | c :: r => mark.isPrefixOf (c :: r) || occurs mark r

/-- What follows the leftmost mark whose following text is accepted. -/
def after? (mark : List Char) (accepts : List Char → Bool) : List Char → Option (List Char)
  | [] => none
  | c :: r =>
    match mark.isPrefixOf? (c :: r) with
    | some rest => if accepts rest then some rest else after? mark accepts r
    | none => after? mark accepts r

/-- A mark occurs exactly where the text can be cut around it. -/
theorem occurs_iff (mark s : List Char) :
    occurs mark s = true ↔ ∃ before rest, s = before ++ mark ++ rest := by
  induction s with
  | nil =>
    constructor
    · intro h
      have : mark = [] := by simpa [occurs] using h
      exact ⟨[], [], by simp [this]⟩
    · rintro ⟨before, rest, h⟩
      have : mark = [] := by
        have h' := congrArg List.length h
        simp only [List.length_nil, List.length_append] at h'
        exact List.eq_nil_of_length_eq_zero (by omega)
      simp [occurs, this]
  | cons c r ih =>
    simp only [occurs, Bool.or_eq_true, List.isPrefixOf_iff_prefix, ih]
    constructor
    · rintro (⟨rest, h⟩ | ⟨before, rest, h⟩)
      · exact ⟨[], rest, by simpa using h.symm⟩
      · exact ⟨c :: before, rest, by simp [h]⟩
    · rintro ⟨before, rest, h⟩
      cases before with
      | nil => exact Or.inl ⟨rest, by simpa using h.symm⟩
      | cons b before =>
        simp only [List.cons_append, List.cons.injEq] at h
        exact Or.inr ⟨before, rest, h.2⟩

end DtoForge.Text

namespace DtoForge

/-- Whether one string holds another. -/
def holdsText (text mark : String) : Bool :=
  Text.occurs mark.toList text.toList

end DtoForge
