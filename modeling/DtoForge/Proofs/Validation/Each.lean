/-
What asking a validator of each element does to the text of its arguments.

Arguments that speak of `each:` are left as they are.  To all others the options come, and
they come in one of two places: behind everything that is written, or inside of the object
that is written last.  Either way nothing of the text is lost but the closing brace of that
object and the white space behind it.

Whatever place it is, the result speaks of `each:`, so asking once more changes nothing.
-/
import DtoForge.Proofs.Text.Trim
import DtoForge.Validation.Each

namespace DtoForge

namespace Text

theorem infix_intercalate {sep piece : List Char} :
    ∀ {pieces : List (List Char)}, piece ∈ pieces → piece <:+: sep.intercalate pieces := by
  intro pieces
  induction pieces with
  | nil => intro h; simp at h
  | cons first rest ih =>
      intro h
      cases rest with
      | nil => simp [List.mem_singleton.mp h]
      | cons second rest =>
          rw [List.intercalate_cons_cons]
          rcases List.mem_cons.mp h with rfl | h
          · rw [List.append_assoc]
            exact (List.prefix_append _ _).isInfix
          · exact (ih h).trans (List.suffix_append _ _).isInfix

theorem prefix_intercalate {sep first : List Char} (rest : List (List Char)) :
    first <+: sep.intercalate (first :: rest) := by
  cases rest with
  | nil => simp
  | cons second rest =>
      rw [List.intercalate_cons_cons, List.append_assoc]
      exact List.prefix_append _ _

theorem occurs_of_infix {mark s t : List Char} (hst : s <:+: t) (h : occurs mark s = true) :
    occurs mark t = true := by
  obtain ⟨before, rest, rfl⟩ := (occurs_iff mark s).mp h
  obtain ⟨front, back, rfl⟩ := hst
  exact (occurs_iff mark _).mpr ⟨front ++ before, rest ++ back, by simp⟩

end Text

namespace Each

/-! ### Where the options go -/

/-- Joining options to an object opens its closing brace and drops the white space behind. -/
theorem of_join? {s joined : List Char} (h : join? s = some joined) :
    ∃ head blank, s = head ++ '\x7d' :: blank ∧ (∀ c ∈ blank, isBlank c = true) ∧
      joined = head ++ ", each: true \x7d".toList := by
  obtain ⟨blank, hs, hblank⟩ := Text.exists_blank_trimEnd s
  simp only [join?] at h
  split at h
  · rename_i hlast
    obtain ⟨head, hkept⟩ := List.getLast?_eq_some_iff.mp hlast
    rw [hkept, List.dropLast_concat, Option.some.injEq] at h
    exact ⟨head, blank, by rw [hs, hkept]; simp, hblank, h.symm⟩
  · simp at h

/-- The options go into an object at the end, or behind everything. -/
theorem place_cases (s : List Char) :
    join? s = some ((join? s).getD (append s [options])) ∨
      (join? s).getD (append s [options]) = append s [options] := by
  cases join? s with
  | none => exact Or.inr rfl
  | some joined => exact Or.inl rfl

theorem lift_cases (defaults? : Option (List Char)) (s : List Char) :
    (Text.occurs "each:".toList s = true ∧ lift defaults? s = s) ∨
      join? s = some (lift defaults? s) ∨
      ∃ more, lift defaults? s = append s (more ++ [options]) := by
  unfold lift
  by_cases heach : Text.occurs "each:".toList s = true
  · exact Or.inl ⟨heach, if_pos heach⟩
  · refine Or.inr ?_
    rw [if_neg heach]
    cases defaults? with
    | none => exact (place_cases s).imp_right fun h => ⟨[], h⟩
    | some defaults =>
        dsimp only
        split
        · exact (place_cases s).imp_right fun h => ⟨[], h⟩
        · exact Or.inr ⟨_, rfl⟩

/-! ### Speaking of each element -/

theorem speaks_append (s : List Char) (more : List (List Char)) :
    Text.occurs "each:".toList (append s (more ++ [options])) = true := by
  refine Text.occurs_of_infix (s := options) (Text.infix_intercalate ?_) (by decide +kernel)
  simp

theorem speaks_lift (defaults? : Option (List Char)) (s : List Char) :
    Text.occurs "each:".toList (lift defaults? s) = true := by
  rcases lift_cases defaults? s with ⟨heach, hlift⟩ | hjoin | ⟨more, hlift⟩
  · rw [hlift]
    exact heach
  · obtain ⟨head, blank, -, -, hlift⟩ := of_join? hjoin
    rw [hlift]
    exact Text.occurs_of_infix (List.suffix_append _ _).isInfix (by decide +kernel)
  · rw [hlift]
    exact speaks_append s more

/-! ### The rule for a validator -/

section Wrap

variable (name : String)

theorem wrap_of_empty {argument : Option String} (h : argument.getD "" = "") :
    wrap name argument = String.ofList options ∨
      ∃ defaults, wrap name argument = String.ofList (append defaults [options]) := by
  simp only [wrap, h, String.toList_empty]
  cases Catalog.defaults? name with
  | none => exact Or.inl rfl
  | some defaults => exact Or.inr ⟨defaults.toList, rfl⟩

theorem wrap_of_ne {s : String} (hs : s ≠ "") :
    wrap name (some s)
      = String.ofList (lift ((Catalog.defaults? name).map String.toList) s.toList) := by
  have hne : s.toList ≠ [] := by simpa using hs
  unfold wrap
  cases hlist : s.toList with
  | nil => exact absurd hlist hne
  | cons c r => simp [hlist]

/-- What a validator is asked of each element with says so. -/
theorem speaks_wrap (argument : Option String) :
    holdsText (wrap name argument) "each:" = true := by
  rw [holdsText]
  by_cases h : argument.getD "" = ""
  · rcases wrap_of_empty name h with hwrap | ⟨defaults, hwrap⟩
    · rw [hwrap, String.toList_ofList]
      decide +kernel
    · rw [hwrap]
      simpa using speaks_append defaults []
  · cases argument with
    | none => exact absurd rfl h
    | some s =>
        have hs : s ≠ "" := h
        rw [wrap_of_ne name hs]
        simpa using speaks_lift ((Catalog.defaults? name).map String.toList) s.toList

/-- A validator that is asked of each element already stays as it is. -/
theorem wrap_of_speaks {s : String} (h : holdsText s "each:" = true) :
    wrap name (some s) = s := by
  have hs : s ≠ "" := by
    rintro rfl
    exact absurd h (by decide)
  rw [holdsText] at h
  rw [wrap_of_ne name hs]
  unfold lift
  rw [if_pos h, String.ofList_toList]

/-- What is written stays in front, but for the end of an object that is opened again. -/
theorem keeps_wrap {s : String} (hs : s ≠ "") :
    (∃ more, wrap name (some s) = s ++ more) ∨
      ∃ head blank, s = head ++ "\x7d" ++ blank ∧
        (∀ c ∈ blank.toList, isBlank c = true) ∧
        wrap name (some s) = head ++ ", each: true \x7d" := by
  have keepsOf : ∀ {t : List Char}, s.toList <+: t → ∃ more, String.ofList t = s ++ more := by
    rintro t ⟨more, rfl⟩
    exact ⟨String.ofList more, by rw [String.ofList_append, String.ofList_toList]⟩
  rw [wrap_of_ne name hs]
  rcases lift_cases ((Catalog.defaults? name).map String.toList) s.toList with
    ⟨-, hlift⟩ | hjoin | ⟨more, hlift⟩
  · rw [hlift]
    exact Or.inl (keepsOf (List.prefix_refl _))
  · obtain ⟨head, blank, hcut, hblank, hlift⟩ := of_join? hjoin
    refine Or.inr ⟨String.ofList head, String.ofList blank, ?_, by simpa using hblank, ?_⟩
    · rw [← String.toList_inj]
      simp [hcut]
    · rw [hlift, String.ofList_append, String.ofList_toList]
  · rw [hlift]
    exact Or.inl (keepsOf (Text.prefix_intercalate _))

end Wrap

/-- **Asking of each element keeps what is written, and asking twice is asking once.**

The result speaks of `each:`.  It begins with the arguments as they were written, or these
end with a closing brace and white space, and then the options stand where the brace was. -/
theorem wrap_keeps (name : String) (argument : Option String) :
    (∃ before after, wrap name argument = before ++ "each:" ++ after) ∧
      wrap name (some (wrap name argument)) = wrap name argument ∧
      ∀ s ∈ argument, s ≠ "" →
        (∃ more, wrap name argument = s ++ more) ∨
          ∃ head blank, s = head ++ "\x7d" ++ blank ∧
            (∀ c ∈ blank.toList, isBlank c = true) ∧
            wrap name argument = head ++ ", each: true \x7d" := by
  refine ⟨?_, wrap_of_speaks name (speaks_wrap name argument), ?_⟩
  · obtain ⟨before, rest, h⟩ := (Text.occurs_iff _ _).mp (speaks_wrap name argument)
    refine ⟨String.ofList before, String.ofList rest, ?_⟩
    rw [← String.toList_inj, h]
    simp
  · intro s hs hne
    rw [Option.mem_def] at hs
    subst hs
    exact keeps_wrap name hne

/-- An object behind all arguments is opened again, and the line feed behind it is dropped. -/
theorem wrap_keeps_message :
    "2, 20, \x7b message: 'bad' \x7d\n" ≠ "" ∧
      wrap "Length" (some "2, 20, \x7b message: 'bad' \x7d\n")
        = "2, 20, \x7b message: 'bad' , each: true \x7d" ∧
      ((∃ more, wrap "Length" (some "2, 20, \x7b message: 'bad' \x7d\n")
          = "2, 20, \x7b message: 'bad' \x7d\n" ++ more) ∨
        ∃ head blank, "2, 20, \x7b message: 'bad' \x7d\n" = head ++ "\x7d" ++ blank ∧
          (∀ c ∈ blank.toList, isBlank c = true) ∧
          wrap "Length" (some "2, 20, \x7b message: 'bad' \x7d\n")
            = head ++ ", each: true \x7d") := by
  have hne : "2, 20, \x7b message: 'bad' \x7d\n" ≠ "" := by decide
  exact ⟨hne, by decide +kernel, (wrap_keeps "Length" _).2.2 _ rfl hne⟩

end Each

end DtoForge
