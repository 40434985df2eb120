/-
Cutting undoes joining.

A text that is joined from pieces with a separator is cut into the same pieces again, as
long as no piece holds the separator.
-/
import DtoForge.Text.Trim

namespace DtoForge.Text

variable {cut : Char → Bool}

/-- A cut divides a text into the pieces in front of it and those behind. -/
theorem splitWhere_append_cons {sep : Char} (hsep : cut sep = true) (s t : List Char) :
    splitWhere cut (s ++ sep :: t) = splitWhere cut s ++ splitWhere cut t := by
  induction s with
  | nil => simp [splitWhere, hsep]
  | cons c s ih =>
      rw [List.cons_append, splitWhere, splitWhere, ih]
      by_cases hc : cut c = true
      · rw [if_pos hc, if_pos hc, List.cons_append]
      · rw [if_neg hc, if_neg hc]
        cases hs : splitWhere cut s with
        | nil => exact absurd hs (splitWhere_ne_nil cut s)
        | cons piece pieces => rfl

theorem splitWhere_append {sep : Char} (hsep : cut sep = true) (s : List Char)
    {piece : List Char} (h : ∀ c ∈ piece, cut c = false) :
    splitWhere cut (piece ++ sep :: s) = piece :: splitWhere cut s := by
  rw [splitWhere_append_cons hsep, splitWhere_eq_singleton h, List.singleton_append]

theorem mem_of_mem_splitWhere {c : Char} :
    ∀ {s p : List Char}, p ∈ splitWhere cut s → c ∈ p → c ∈ s ∧ cut c = false := by
  intro s
  induction s with
  | nil =>
      intro p hp hc
      rw [splitWhere, List.mem_singleton] at hp
      simp [hp] at hc
  | cons d s ih =>
      intro p hp hc
      rw [splitWhere] at hp
      by_cases hd : cut d = true
      · rw [if_pos hd] at hp
        rcases List.mem_cons.mp hp with rfl | hp
        · simp at hc
        · exact ⟨List.mem_cons_of_mem d (ih hp hc).1, (ih hp hc).2⟩
      · rw [if_neg hd] at hp
        cases hsplit : splitWhere cut s with
        | nil => exact absurd hsplit (splitWhere_ne_nil cut s)
        | cons piece pieces =>
            simp only [hsplit, List.mem_cons] at hp
            rcases hp with rfl | hp
            · rcases List.mem_cons.mp hc with rfl | hc
              · exact ⟨by simp, by simpa using hd⟩
              · have := ih (p := piece) (by simp [hsplit]) hc
                exact ⟨List.mem_cons_of_mem d this.1, this.2⟩
            · have := ih (p := p) (by simp [hsplit, hp]) hc
              exact ⟨List.mem_cons_of_mem d this.1, this.2⟩

/-- Pieces that are joined and cut again are the same pieces. -/
theorem splitAt_intercalate {sep : Char} :
    ∀ {pieces : List (List Char)}, pieces ≠ [] → (∀ p ∈ pieces, sep ∉ p) →
      splitAt sep ([sep].intercalate pieces) = pieces := by
  intro pieces
  have hclean : ∀ {p : List Char}, sep ∉ p → ∀ c ∈ p, (c == sep) = false := by
    intro p hp c hc
    rw [beq_eq_false_iff_ne]
    exact fun h => hp (h ▸ hc)
  induction pieces with
  | nil => intro h; exact absurd rfl h
  | cons p pieces ih =>
      intro _ h
      have hp := hclean (h p (by simp))
      cases pieces with
      | nil =>
          rw [List.intercalate_singleton]
          exact splitWhere_eq_singleton hp
      | cons q pieces =>
          rw [List.intercalate_cons_cons, List.append_assoc, List.singleton_append, splitAt,
            splitWhere_append (by simp) _ hp]
          exact congrArg (p :: ·) (ih (by simp) fun r hr => h r (by simp [hr]))

theorem mem_intercalate {sep x : Char} :
    ∀ {pieces : List (List Char)}, x ∈ [sep].intercalate pieces →
      x = sep ∨ ∃ p ∈ pieces, x ∈ p := by
  intro pieces
  induction pieces with
  | nil => intro h; simp at h
  | cons p pieces ih =>
      intro h
      cases pieces with
      | nil => exact Or.inr ⟨p, by simp, by simpa using h⟩
      | cons q pieces =>
          rw [List.intercalate_cons_cons] at h
          rcases List.mem_append.mp h with h | h
          · rcases List.mem_append.mp h with h | h
            · exact Or.inr ⟨p, by simp, h⟩
            · exact Or.inl (List.mem_singleton.mp h)
          · rcases ih h with rfl | ⟨r, hr, hx⟩
            · exact Or.inl rfl
            · exact Or.inr ⟨r, List.mem_cons_of_mem p hr, hx⟩

end DtoForge.Text
