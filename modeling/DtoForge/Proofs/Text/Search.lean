/-
Where a search for a mark stops.

It stops at the leftmost mark whose following text it accepts, so it succeeds where there is
one at all.  A place of a mark is told by the text in front of it and the text behind it.  Where
the mark is a line feed, the leftmost one ends the line.
-/
import Mathlib.Data.List.Basic
import Mathlib.Data.List.TakeWhile
import DtoForge.Text.Search

namespace DtoForge.Text

theorem isSome_after?_iff {mark : List Char} (hmark : mark ≠ [])
    (accepts : List Char → Bool) (s : List Char) :
    (after? mark accepts s).isSome = true ↔
      ∃ before rest, s = before ++ (mark ++ rest) ∧ accepts rest = true := by
  induction s with
  | nil => simp [after?, hmark]
  | cons c r ih =>
      rw [after?]
      constructor
      · intro h
        have later : (after? mark accepts r).isSome = true →
            ∃ before rest, c :: r = before ++ (mark ++ rest) ∧ accepts rest = true := by
          intro hr
          obtain ⟨before, rest, hcut, haccepts⟩ := ih.mp hr
          exact ⟨c :: before, rest, by rw [hcut]; rfl, haccepts⟩
        cases hpre : mark.isPrefixOf? (c :: r) with
        | none => exact later (by simpa [hpre] using h)
        | some rest =>
            by_cases haccepts : accepts rest = true
            · rw [List.isPrefixOf?_eq_some_iff_append_eq] at hpre
              exact ⟨[], rest, hpre.symm, haccepts⟩
            · exact later (by simpa [hpre, haccepts] using h)
      · rintro ⟨before, rest, hcut, haccepts⟩
        cases before with
        | nil =>
            have hpre : mark.isPrefixOf? (c :: r) = some rest := by
              rw [List.isPrefixOf?_eq_some_iff_append_eq]
              exact hcut.symm
            simp [hpre, haccepts]
        | cons b before =>
            have hr : (after? mark accepts r).isSome = true :=
              ih.mpr ⟨before, rest, (List.cons.inj hcut).2, haccepts⟩
            cases mark.isPrefixOf? (c :: r) with
            | none => exact hr
            | some found =>
                dsimp only
                split
                · rfl
                · exact hr

/-- The mark stands between `before` and `rest`, is accepted there, and no mark that is accepted
stands further to the left. -/
structure IsLeftmost (mark : List Char) (accepts : List Char → Bool)
    (s before rest : List Char) : Prop where
  cut : s = before ++ (mark ++ rest)
  accepted : accepts rest = true
  least : ∀ b r, s = b ++ (mark ++ r) → accepts r = true → before.length ≤ b.length

/-- Where no mark is accepted at the front of a text, the leftmost one is that of the rest. -/
theorem isLeftmost_cons_iff {mark : List Char} {accepts : List Char → Bool} {c : Char}
    {s rest : List Char} (hfront : ∀ r, c :: s = mark ++ r → accepts r = false) :
    (∃ before, IsLeftmost mark accepts (c :: s) before rest) ↔
      ∃ before, IsLeftmost mark accepts s before rest := by
  constructor
  · rintro ⟨before, hcut, haccepted, hleast⟩
    cases before with
    | nil =>
        rw [hfront rest hcut] at haccepted
        exact absurd haccepted (by decide)
    | cons b before =>
        refine ⟨before, (List.cons.inj hcut).2, haccepted, fun b' r hs hr => ?_⟩
        have hle := hleast (c :: b') r (by rw [hs]; rfl) hr
        simpa using hle
  · rintro ⟨before, hcut, haccepted, hleast⟩
    refine ⟨c :: before, by rw [hcut]; rfl, haccepted, fun b r hs hr => ?_⟩
    cases b with
    | nil =>
        rw [hfront r hs] at hr
        exact absurd hr (by decide)
    | cons b bs =>
        have hle := hleast bs r (List.cons.inj hs).2 hr
        simpa using hle

theorem after?_eq_some_iff {mark : List Char} (hmark : mark ≠ []) {accepts : List Char → Bool}
    {s rest : List Char} :
    after? mark accepts s = some rest ↔ ∃ before, IsLeftmost mark accepts s before rest := by
  induction s with
  | nil =>
      constructor
      · intro h
        simp [after?] at h
      · rintro ⟨before, hcut, -, -⟩
        simp [hmark] at hcut
  | cons c s ih =>
      rw [after?]
      cases hpre : mark.isPrefixOf? (c :: s) with
      | none =>
          have hfront : ∀ r, c :: s = mark ++ r → accepts r = false := by
            intro r hr
            rw [List.isPrefixOf?_eq_some_iff_append_eq.mpr hr.symm] at hpre
            exact absurd hpre (by simp)
          rw [isLeftmost_cons_iff hfront]
          exact ih
      | some found =>
          have hfound : mark ++ found = c :: s := List.isPrefixOf?_eq_some_iff_append_eq.mp hpre
          by_cases haccepts : accepts found = true
          · simp only [haccepts, if_true, Option.some.injEq]
            constructor
            · rintro rfl
              exact ⟨[], hfound.symm, haccepts, fun _ _ _ _ => Nat.zero_le _⟩
            · rintro ⟨before, hcut, -, hleast⟩
              have hle := hleast [] found hfound.symm haccepts
              obtain rfl : before = [] := List.eq_nil_of_length_eq_zero (by simpa using hle)
              exact List.append_cancel_left (hfound.trans hcut)
          · have hfront : ∀ r, c :: s = mark ++ r → accepts r = false := by
              intro r hr
              have hsame : r = found := List.append_cancel_left (hr.symm.trans hfound.symm)
              rw [hsame]
              simpa using haccepts
            simp only [haccepts, if_false, Bool.false_eq_true]
            rw [isLeftmost_cons_iff hfront]
            exact ih

/-! ### A mark anywhere -/

theorem mem_of_occurs {mark s : List Char} {c : Char} (h : occurs mark s = true) (hc : c ∈ mark) :
    c ∈ s := by
  obtain ⟨before, rest, rfl⟩ := (occurs_iff mark s).mp h
  exact List.mem_append_left rest (List.mem_append_right before hc)

/-- A mark is not met in text without its first character, nor does it begin there. -/
theorem occurs_append_of_notMem {c : Char} {mark : List Char} :
    ∀ {t : List Char}, c ∉ t → ∀ s : List Char,
      occurs (c :: mark) (t ++ s) = occurs (c :: mark) s := by
  intro t
  induction t with
  | nil => intro _ s; rfl
  | cons d t ih =>
      intro ht s
      simp only [List.mem_cons, not_or] at ht
      have hfront : (c :: mark).isPrefixOf (d :: (t ++ s)) = false := by
        rw [List.isPrefixOf, beq_eq_false_iff_ne.mpr ht.1, Bool.false_and]
      rw [List.cons_append, occurs, hfront, Bool.false_or, ih ht.2]

/-! ### Places of a character -/

/-- Two places of a character are the same, or one is in front of the other. -/
theorem mark_cases {mark : Char} {x x' r r' : List Char} (h : x ++ mark :: r = x' ++ mark :: r') :
    (x = x' ∧ r = r') ∨ (∃ y, x' = x ++ mark :: y ∧ r = y ++ mark :: r') ∨
      ∃ y, x = x' ++ mark :: y ∧ r' = y ++ mark :: r := by
  rcases List.append_eq_append_iff.mp h with ⟨y, hx, hr⟩ | ⟨y, hx, hr⟩
  · cases y with
    | nil =>
        rw [List.append_nil] at hx
        exact Or.inl ⟨hx.symm, (List.cons.inj hr).2⟩
    | cons c y =>
        obtain ⟨rfl, htail⟩ := List.cons.inj hr
        exact Or.inr (Or.inl ⟨y, hx, htail⟩)
  · cases y with
    | nil =>
        rw [List.append_nil] at hx
        exact Or.inl ⟨hx, (List.cons.inj hr).2.symm⟩
    | cons c y =>
        obtain ⟨rfl, htail⟩ := List.cons.inj hr
        exact Or.inr (Or.inr ⟨y, hx, htail⟩)

/-- A text begins with a line, and a line feed or nothing follows the line. -/
theorem exists_line (s : List Char) :
    ∃ line rest, s = line ++ rest ∧ '\n' ∉ line ∧ ∀ c ∈ rest.head?, c = '\n' := by
  refine ⟨s.takeWhile (· != '\n'), s.dropWhile (· != '\n'), List.takeWhile_append_dropWhile.symm,
    ?_, ?_⟩
  · intro h
    simpa using List.mem_takeWhile_imp h
  · intro c hc
    have hstop := List.head?_dropWhile_not (· != '\n') s
    rw [Option.mem_def.mp hc] at hstop
    simpa using hstop

end DtoForge.Text
