/-
What trimming takes from a text.

From the end it takes white space, all that stands there, and nothing else.  So a trimmed text
ends with the last character of the text that is no white space.

A text that has no white space at its ends stays as it is.
-/
import DtoForge.Text.Trim

namespace DtoForge.Text

/-- Trimming takes white space from the end of a text, and nothing else. -/
theorem exists_blank_trimEnd (s : List Char) :
    ∃ blank, s = trimEnd s ++ blank ∧ ∀ c ∈ blank, isBlank c = true := by
  induction s with
  | nil => exact ⟨[], rfl, by simp⟩
  | cons c r ih =>
      obtain ⟨blank, hr, hblank⟩ := ih
      rw [trimEnd]
      cases hkept : trimEnd r with
      | cons d kept => exact ⟨blank, by rw [hkept] at hr; simp [← hr], hblank⟩
      | nil =>
          rw [hkept, List.nil_append] at hr
          by_cases hc : isBlank c = true
          · refine ⟨c :: r, by simp [hc], ?_⟩
            rw [hr]
            simpa [hc] using hblank
          · exact ⟨r, by simp [hc], hr ▸ hblank⟩

theorem trimEnd_append_of_blank {gap : List Char} (hgap : ∀ c ∈ gap, isBlank c = true)
    (s : List Char) : trimEnd (s ++ gap) = trimEnd s := by
  have hnil : trimEnd gap = [] := by
    induction gap with
    | nil => rfl
    | cons c gap ih =>
        rw [trimEnd, ih fun d hd => hgap d (by simp [hd])]
        simp [hgap c (by simp)]
  induction s with
  | nil => simpa [trimEnd] using hnil
  | cons c s ih => rw [List.cons_append, trimEnd, trimEnd, ih]

theorem trimEnd_concat {c : Char} (hc : isBlank c = false) (s : List Char) :
    trimEnd (s ++ [c]) = s ++ [c] := by
  induction s with
  | nil => simp [trimEnd, hc]
  | cons d s ih =>
      rw [List.cons_append, trimEnd, ih]
      cases hs : s ++ [c] with
      | nil => simp at hs
      | cons e r => rfl

theorem isBlank_of_getLast?_trimEnd {s : List Char} {c : Char}
    (h : (trimEnd s).getLast? = some c) : isBlank c = false := by
  induction s with
  | nil => simp [trimEnd] at h
  | cons d s ih =>
      rw [trimEnd] at h
      cases hs : trimEnd s with
      | cons e kept =>
          rw [hs] at h ih
          exact ih (by simpa using h)
      | nil =>
          by_cases hd : isBlank d = true
          · simp [hs, hd] at h
          · simp only [hs, if_neg hd, List.getLast?_singleton, Option.some.injEq] at h
            rw [← h]
            simpa using hd

/-- A text ends, but for white space, with its last character that is none. -/
theorem getLast?_trimEnd_eq_some_iff {s : List Char} {c : Char} :
    (trimEnd s).getLast? = some c ↔
      isBlank c = false ∧ ∃ before gap, s = before ++ c :: gap ∧ ∀ d ∈ gap, isBlank d = true := by
  constructor
  · intro h
    obtain ⟨gap, hs, hgap⟩ := exists_blank_trimEnd s
    obtain ⟨before, hkept⟩ := List.getLast?_eq_some_iff.mp h
    refine ⟨isBlank_of_getLast?_trimEnd h, before, gap, ?_, hgap⟩
    rw [hs, hkept]
    simp
  · rintro ⟨hc, before, gap, rfl, hgap⟩
    have hcut : before ++ c :: gap = (before ++ [c]) ++ gap := by simp
    rw [hcut, trimEnd_append_of_blank hgap, trimEnd_concat hc, List.getLast?_concat]

/-! ### Both ends -/

theorem mem_trim_of_mem {s : List Char} {c : Char} (hc : isBlank c = false) (h : c ∈ s) :
    c ∈ trim s := by
  have hstart : c ∈ trimStart s := by
    unfold trimStart
    induction s with
    | nil => exact h
    | cons d r ih =>
        by_cases hd : isBlank d = true
        · have hne : c ≠ d := by
            rintro rfl
            exact Bool.false_ne_true (hc.symm.trans hd)
          rw [List.dropWhile_cons_of_pos hd]
          exact ih ((List.mem_cons.mp h).resolve_left hne)
        · rwa [List.dropWhile_cons_of_neg hd]
  obtain ⟨gap, hcut, hgap⟩ := exists_blank_trimEnd (trimStart s)
  rw [hcut] at hstart
  refine (List.mem_append.mp hstart).resolve_right fun hend => ?_
  exact Bool.false_ne_true (hc.symm.trans (hgap c hend))

/-- Nothing is trimmed off a text without white space at its ends. -/
theorem trim_eq_self {s : List Char} (hbegins : ∀ c ∈ s.head?, isBlank c = false)
    (hends : ∀ c ∈ s.getLast?, isBlank c = false) : trim s = s := by
  have hstart : trimStart s = s := by
    cases s with
    | nil => rfl
    | cons c r => exact List.dropWhile_cons_of_neg (by simp [hbegins c rfl])
  rw [trim, hstart]
  cases hlast : s.getLast? with
  | none =>
      rw [List.getLast?_eq_none_iff.mp hlast]
      rfl
  | some c =>
      obtain ⟨front, rfl⟩ := List.getLast?_eq_some_iff.mp hlast
      exact trimEnd_concat (hends c hlast) front

end DtoForge.Text
