/-
What file bases and class bases are made of.

A file base is lower-case words with hyphens between them.  Whatever the name, its
characters are hyphens, digits and small letters, or lie beyond ASCII, so none can take a path
apart, or a line, or a text in quotes.

Two names with one file base need not have one class base: a letter may share its lower
case with another and keep an upper case of its own.  In ASCII none does, and there the
class base can be read off the file base.
-/
import Mathlib.Data.List.Basic
import DtoForge.Proofs.Character.Ascii
import DtoForge.Proofs.Text.Pieces
import DtoForge.Text.Words

namespace DtoForge

/-! ### Lower case -/

/-- A code point maps to itself or is shifted by a run that holds it. -/
theorem CaseRun.apply_cases (runs : List CaseRun) (n : Nat) :
    CaseRun.apply runs n = n ∨
      ∃ r ∈ runs, r.run.first ≤ n ∧ n ≤ r.run.last ∧
        CaseRun.apply runs n = (n + r.shift).toNat := by
  unfold CaseRun.apply
  cases hfind : runs.find? (·.run.holds n) with
  | none => exact Or.inl rfl
  | some r =>
      have hholds : r.run.holds n = true := by simpa using List.find?_some hfind
      simp only [CodeRun.holds, Bool.and_eq_true, decide_eq_true_eq] at hholds
      exact Or.inr ⟨r, List.mem_of_find?_eq_some hfind, hholds.1.1, hholds.1.2, rfl⟩

/-- What words in lower case are made of: digits and small letters in ASCII, and beyond it
nothing that is blank or ends a line. -/
def IsPlain (c : Char) : Prop :=
  (48 ≤ c.toNat ∧ c.toNat ≤ 57) ∨ (97 ≤ c.toNat ∧ c.toNat ≤ 122) ∨
    (0xAA ≤ c.toNat ∧ (c.toNat < 0x2028 ∨ 0x2029 < c.toNat))

instance : DecidablePred IsPlain := fun _ =>
  inferInstanceAs (Decidable (_ ∨ _))

private theorem lowerRuns_range :
    ∀ r ∈ lowerRuns,
      (97 ≤ r.run.first + r.shift ∧ r.run.last + r.shift ≤ 122) ∨
        (0xAA ≤ r.run.first + r.shift ∧
          (r.run.last + r.shift < 0x2028 ∨
            0x2029 < r.run.first + r.shift ∧ r.run.last + r.shift < 0xD800 ∨
              0xDFFF < r.run.first + r.shift ∧ r.run.last + r.shift < 0x110000)) := by
  decide +kernel

private theorem toNat_toLower_of_alphanum :
    ∀ n < 128, ((65 ≤ n ∧ n ≤ 90) ∨ (97 ≤ n ∧ n ≤ 122) ∨ (48 ≤ n ∧ n ≤ 57)) →
      IsPlain (Char.ofNat n).toLower := by
  decide +kernel

/-- Beyond ASCII nothing alphanumeric is blank or ends a line. -/
private theorem alphanumericRuns_range :
    ∀ r ∈ alphanumericRuns, 0xAA ≤ r.first ∧ (r.last < 0x2028 ∨ 0x2029 < r.first) := by
  decide +kernel

theorem isPlain_of_isAlphanumeric {c : Char} (hascii : ¬c.toNat < 128)
    (h : isAlphanumeric c = true) : IsPlain c := by
  rw [isAlphanumeric, if_neg hascii, CodeRun.anyHolds, List.any_eq_true] at h
  obtain ⟨r, hr, hholds⟩ := h
  simp only [CodeRun.holds, Bool.and_eq_true, decide_eq_true_eq] at hholds
  have hrange := alphanumericRuns_range r hr
  exact Or.inr (Or.inr (by omega))

theorem isPlain_of_mem_lowerForm {c x : Char} (hc : isAlphanumeric c = true)
    (hx : x ∈ lowerForm c) : IsPlain x := by
  unfold lowerForm at hx
  by_cases hascii : c.toNat < 128
  · rw [if_pos hascii, List.mem_singleton] at hx
    rw [isAlphanumeric, if_pos hascii, isAlphanum_iff] at hc
    have := toNat_toLower_of_alphanum c.toNat hascii hc
    rwa [Char.ofNat_toNat, ← hx] at this
  · rw [if_neg hascii] at hx
    by_cases hdot : c.toNat = 0x130
    · rw [if_pos hdot] at hx
      rcases List.mem_cons.mp hx with rfl | hx
      · decide
      · rw [List.mem_singleton.mp hx]
        decide
    · rw [if_neg hdot, List.mem_singleton] at hx
      subst hx
      rcases CaseRun.apply_cases lowerRuns c.toNat with heq | ⟨r, hr, hfirst, hlast, heq⟩
      · rw [heq, Char.ofNat_toNat]
        exact isPlain_of_isAlphanumeric hascii hc
      · have hrange := lowerRuns_range r hr
        have hvalid : (CaseRun.apply lowerRuns c.toNat).isValidChar := by
          rw [heq, Nat.isValidChar]
          omega
        have hto : (Char.ofNat (CaseRun.apply lowerRuns c.toNat)).toNat
            = CaseRun.apply lowerRuns c.toNat := by
          rw [Char.ofNat, dif_pos hvalid]
          rfl
        rw [IsPlain, hto, heq]
        omega

namespace Text

/-! ### Words -/

theorem mem_of_mem_wordsFrom {shown : Shown} {word rest w : List Char} {c : Char}
    (hw : w ∈ wordsFrom shown word rest) (hc : c ∈ w) : c ∈ word ++ rest := by
  fun_induction wordsFrom shown word rest with
  | case1 => simp_all
  | case2 => simp_all
  | case3 => simp_all
  | case4 shown word d next rest _ ih =>
      rcases List.mem_cons.mp hw with rfl | hw
      · rcases List.mem_append.mp hc with hc | hc
        · exact List.mem_append_left _ hc
        · exact List.mem_append_right _ (by simp [List.mem_singleton.mp hc])
      · exact List.mem_append_right _ (List.mem_cons_of_mem d (by simpa using ih hw))
  | case5 shown word d next rest _ _ ih =>
      rcases List.mem_cons.mp hw with rfl | hw
      · exact List.mem_append_left _ hc
      · exact List.mem_append_right _ (by simpa using ih hw)
  | case6 shown word d next rest _ _ ih => simpa using ih hw

theorem isAlphanumeric_of_mem_words {name w : List Char} {c : Char} (hw : w ∈ words name)
    (hc : c ∈ w) : c ∈ name ∧ isAlphanumeric c = true := by
  obtain ⟨piece, hpiece, hw⟩ := List.mem_flatMap.mp hw
  have hmem : c ∈ piece := by simpa using mem_of_mem_wordsFrom hw hc
  simpa using mem_of_mem_splitWhere hpiece hmem

/-! ### File bases -/

theorem isPlain_of_mem_lowerWord {w : List Char} (hw : ∀ c ∈ w, isAlphanumeric c = true) :
    ∀ x ∈ lowerWord w, IsPlain x := by
  fun_induction lowerWord w with
  | case1 => simp
  | case2 =>
      intro x hx
      rw [List.mem_singleton.mp hx]
      decide
  | case3 c r _ ih =>
      intro x hx
      rcases List.mem_append.mp hx with hx | hx
      · exact isPlain_of_mem_lowerForm (hw c (by simp)) hx
      · exact ih (fun d hd => hw d (by simp [hd])) x hx

/-- A word of a file base is plain, so it has no hyphen. -/
theorem isPlain_of_mem_words {name w : List Char} (hw : w ∈ (words name).map lowerWord) :
    ∀ x ∈ w, IsPlain x := by
  obtain ⟨word, hword, rfl⟩ := List.mem_map.mp hw
  exact isPlain_of_mem_lowerWord fun c hc => (isAlphanumeric_of_mem_words hword hc).2

end Text

/-- **A file base is made of hyphens and plain characters.** -/
theorem isPlain_of_mem_fileBase {name : String} {x : Char} (hx : x ∈ (fileBase name).toList) :
    x = '-' ∨ IsPlain x := by
  rw [fileBase, String.toList_ofList, Text.kebab] at hx
  rcases Text.mem_intercalate hx with rfl | ⟨w, hw, hx⟩
  · exact Or.inl rfl
  · exact Or.inr (Text.isPlain_of_mem_words hw x hx)

/-! ### Class bases -/

/-- Names of which the file base decides the class base. -/
def NamesAgree (names : List String) : Prop :=
  ∀ a ∈ names, ∀ b ∈ names, fileBase a = fileBase b → classBase a = classBase b

instance (names : List String) : Decidable (NamesAgree names) :=
  inferInstanceAs (Decidable (∀ a ∈ names, _))

namespace Text

private theorem toLower_facts :
    ∀ n < 128, (Char.ofNat n).toLower.toNat < 128 ∧
      (Char.ofNat n).toLower.toUpper = (Char.ofNat n).toUpper ∧
      (Char.ofNat n).toLower.toLower = (Char.ofNat n).toLower := by
  decide +kernel

theorem lowerWord_of_ascii {w : List Char} (hw : ∀ c ∈ w, c.toNat < 128) :
    lowerWord w = w.map Char.toLower := by
  fun_induction lowerWord w with
  | case1 => rfl
  | case2 => exact absurd (hw 'Σ' (by simp)) (by decide)
  | case3 c r _ ih =>
      have hc : lowerForm c = [c.toLower] := if_pos (hw c (by simp))
      rw [hc, ih fun d hd => hw d (by simp [hd])]
      rfl

/-- In ASCII lower case loses nothing that capitals keep. -/
theorem capitalWord_lowerWord {w : List Char} (hw : ∀ c ∈ w, c.toNat < 128) :
    capitalWord (lowerWord w) = capitalWord w := by
  rw [lowerWord_of_ascii hw]
  cases w with
  | nil => rfl
  | cons c r =>
      have hfacts : ∀ d ∈ c :: r, d.toLower.toNat < 128 ∧ d.toLower.toUpper = d.toUpper ∧
          d.toLower.toLower = d.toLower := by
        intro d hd
        simpa using toLower_facts d.toNat (hw d hd)
      have hr : ∀ d ∈ r, d.toNat < 128 := fun d hd => hw d (by simp [hd])
      have hlow : ∀ d ∈ r.map Char.toLower, d.toNat < 128 := by
        intro d hd
        obtain ⟨e, he, rfl⟩ := List.mem_map.mp hd
        exact (hfacts e (by simp [he])).1
      have hagain : (r.map Char.toLower).map Char.toLower = r.map Char.toLower := by
        rw [List.map_map]
        exact List.map_congr_left fun d hd => (hfacts d (by simp [hd])).2.2
      have hc := hfacts c (by simp)
      rw [List.map_cons, capitalWord, capitalWord, lowerWord_of_ascii hlow,
        lowerWord_of_ascii hr, hagain, upperForm, upperForm, if_pos hc.1,
        if_pos (hw c (by simp)), hc.2.1]

/-- In ASCII the inner capitals stand where the hyphens of the file base end. -/
theorem pascal_of_ascii {name : List Char} (h : ∀ c ∈ name, c.toNat < 128) :
    pascal name = (splitAt '-' (kebab name)).flatMap capitalWord := by
  have hascii : ∀ w ∈ words name, ∀ c ∈ w, c.toNat < 128 := fun w hw c hc =>
    h c (isAlphanumeric_of_mem_words hw hc).1
  have hhyphen : ∀ w ∈ (words name).map lowerWord, '-' ∉ w := by
    intro w hw hmem
    exact absurd (isPlain_of_mem_words hw '-' hmem) (by decide)
  by_cases hne : words name = []
  · simp [pascal, kebab, hne, splitAt, splitWhere, capitalWord]
  · rw [kebab, splitAt_intercalate (by simpa using hne) hhyphen, pascal, List.flatMap_map]
    exact List.flatMap_congr fun w hw => (capitalWord_lowerWord (hascii w hw)).symm

end Text

theorem namesAgree_of_ascii {names : List String}
    (h : ∀ n ∈ names, n.toList.all (fun c => decide (c.toNat < 128)) = true) :
    NamesAgree names := by
  have hascii : ∀ n ∈ names, ∀ c ∈ n.toList, c.toNat < 128 := by
    intro n hn c hc
    simpa using List.all_eq_true.mp (h n hn) c hc
  intro a ha b hb hbase
  have hkebab : Text.kebab a.toList = Text.kebab b.toList := String.ofList_injective hbase
  rw [classBase, classBase, Text.pascal_of_ascii (hascii a ha),
    Text.pascal_of_ascii (hascii b hb), hkebab]

/-- The Kelvin sign shares its file base with the letter and keeps its own capital. -/
example : ¬ NamesAgree ["K", "\u212A"] := by
  decide +kernel

end DtoForge
