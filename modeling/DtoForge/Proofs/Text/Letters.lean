/-
What of a name its class base keeps.

Words are cut out of a name without loss but for the cuts, and writing them with capitals
changes the case of a letter and nothing else, as far as ASCII goes.  So the letters and digits
of ASCII that a name has are, case aside, still in its class base, in their order.  Beyond
ASCII a character may become several, or one of ASCII, so others may come in between.

A name that is all ASCII has a class base with just its letters and digits.
-/
import DtoForge.Proofs.Text.Words

namespace DtoForge

namespace Text

/-! ### Words keep what is alphanumeric -/

theorem flatten_splitWhere (cut : Char → Bool) (s : List Char) :
    (splitWhere cut s).flatten = s.filter fun c => !cut c := by
  induction s with
  | nil => rfl
  | cons c s ih =>
      rw [splitWhere]
      by_cases hc : cut c = true
      · rw [if_pos hc, List.flatten_cons, List.nil_append, ih,
          List.filter_cons_of_neg (by simp [hc])]
      · rw [if_neg hc, List.filter_cons_of_pos (by simp [hc]), ← ih]
        cases splitWhere cut s <;> rfl

theorem flatten_wordsFrom (shown : Shown) (word rest : List Char) :
    (wordsFrom shown word rest).flatten = word ++ rest := by
  fun_induction wordsFrom shown word rest <;> simp_all

theorem flatten_flatMap_wordsFrom (pieces : List (List Char)) :
    (pieces.flatMap (wordsFrom .nothing [])).flatten = pieces.flatten := by
  induction pieces with
  | nil => rfl
  | cons piece pieces ih =>
      rw [List.flatMap_cons, List.flatten_append, flatten_wordsFrom, List.nil_append, ih,
        List.flatten_cons]

/-- The words of a name put together are its alphanumeric characters. -/
theorem flatten_words (name : List Char) : (words name).flatten = name.filter isAlphanumeric := by
  rw [words, flatten_flatMap_wordsFrom, flatten_splitWhere]
  simp only [Bool.not_not]

/-! ### Letters and digits -/

/-- The letters and digits of ASCII in a text, in lower case. -/
def letters (s : List Char) : List Char :=
  (s.filter Char.isAlphanum).map Char.toLower

@[simp] theorem letters_append (s t : List Char) : letters (s ++ t) = letters s ++ letters t := by
  rw [letters, List.filter_append, List.map_append]
  rfl

theorem letters_cons (c : Char) (s : List Char) : letters (c :: s) = letters [c] ++ letters s :=
  letters_append [c] s

theorem letters_singleton_eq_nil {c : Char} (h : ¬ c.toNat < 128) : letters [c] = [] := by
  have hc : ¬ c.isAlphanum = true := fun halnum => h (toNat_lt_of_isAlphanum halnum)
  simp [letters, hc]

private theorem letters_case_facts :
    ∀ n < 128, letters [(Char.ofNat n).toUpper] = letters [Char.ofNat n] ∧
      letters [(Char.ofNat n).toLower] = letters [Char.ofNat n] ∧
      (Char.ofNat n).toUpper.toNat < 128 ∧ (Char.ofNat n).toLower.toNat < 128 := by
  decide +kernel

/-- In ASCII, case changes no letter, and none leaves ASCII. -/
theorem letters_case {c : Char} (h : c.toNat < 128) :
    letters [c.toUpper] = letters [c] ∧ letters [c.toLower] = letters [c] ∧
      c.toUpper.toNat < 128 ∧ c.toLower.toNat < 128 := by
  have hfacts := letters_case_facts c.toNat h
  rwa [Char.ofNat_toNat] at hfacts

theorem letters_filter_isAlphanumeric (s : List Char) :
    letters (s.filter isAlphanumeric) = letters s := by
  rw [letters, letters, List.filter_filter]
  refine congrArg (List.map Char.toLower) (List.filter_congr fun c _ => ?_)
  cases halnum : c.isAlphanum with
  | false => rfl
  | true => rw [isAlphanumeric, if_pos (toNat_lt_of_isAlphanum halnum), halnum, Bool.true_and]

/-! ### Any name -/

theorem letters_sublist_upperForm (c : Char) : (letters [c]).Sublist (letters (upperForm c)) := by
  by_cases hascii : c.toNat < 128
  · rw [upperForm, if_pos hascii, (letters_case hascii).1]
  · rw [letters_singleton_eq_nil hascii]
    exact List.nil_sublist _

theorem letters_sublist_lowerForm (c : Char) : (letters [c]).Sublist (letters (lowerForm c)) := by
  by_cases hascii : c.toNat < 128
  · rw [lowerForm, if_pos hascii, (letters_case hascii).2.1]
  · rw [letters_singleton_eq_nil hascii]
    exact List.nil_sublist _

theorem letters_sublist_lowerWord (w : List Char) :
    (letters w).Sublist (letters (lowerWord w)) := by
  fun_induction lowerWord w with
  | case1 => exact List.Sublist.refl _
  | case2 => decide
  | case3 c r _ ih =>
      rw [letters_cons, letters_append]
      exact (letters_sublist_lowerForm c).append ih

theorem letters_sublist_capitalWord (w : List Char) :
    (letters w).Sublist (letters (capitalWord w)) := by
  cases w with
  | nil => exact List.Sublist.refl _
  | cons c r =>
      rw [capitalWord, letters_cons, letters_append]
      exact (letters_sublist_upperForm c).append (letters_sublist_lowerWord r)

theorem letters_sublist_capitalWords (ws : List (List Char)) :
    (letters ws.flatten).Sublist (letters (ws.flatMap capitalWord)) := by
  induction ws with
  | nil => exact List.Sublist.refl _
  | cons w ws ih =>
      rw [List.flatten_cons, List.flatMap_cons, letters_append, letters_append]
      exact (letters_sublist_capitalWord w).append ih

/-- **Every letter of a name is in the name with inner capitals.** -/
theorem letters_sublist_pascal (name : List Char) :
    (letters name).Sublist (letters (pascal name)) := by
  rw [pascal, ← letters_filter_isAlphanumeric, ← flatten_words]
  exact letters_sublist_capitalWords (words name)

/-! ### Names in ASCII -/

/-- A text all of whose characters are ASCII. -/
def IsAscii (s : List Char) : Prop :=
  ∀ c ∈ s, c.toNat < 128

instance : DecidablePred IsAscii := fun s =>
  List.decidableBAll (fun c : Char => c.toNat < 128) s

theorem IsAscii.append {s t : List Char} (hs : IsAscii s) (ht : IsAscii t) : IsAscii (s ++ t) :=
  List.forall_mem_append.mpr ⟨hs, ht⟩

theorem letters_map_toLower {s : List Char} (h : IsAscii s) :
    letters (s.map Char.toLower) = letters s := by
  induction s with
  | nil => rfl
  | cons c s ih =>
      rw [List.map_cons, letters_cons, (letters_case (h c (by simp))).2.1,
        ih fun d hd => h d (List.mem_cons_of_mem c hd), ← letters_cons]

theorem capitalWord_of_isAscii {w : List Char} (h : IsAscii w) :
    letters (capitalWord w) = letters w ∧ IsAscii (capitalWord w) := by
  cases w with
  | nil => exact ⟨rfl, by decide⟩
  | cons c r =>
      have hc : c.toNat < 128 := h c (by simp)
      have hr : IsAscii r := fun d hd => h d (List.mem_cons_of_mem c hd)
      rw [capitalWord, upperForm, if_pos hc, lowerWord_of_ascii hr]
      refine ⟨?_, ?_⟩
      · rw [letters_append, (letters_case hc).1, letters_map_toLower hr, ← letters_cons]
      · intro d hd
        rcases List.mem_cons.mp hd with rfl | hd
        · exact (letters_case hc).2.2.1
        · obtain ⟨e, he, rfl⟩ := List.mem_map.mp hd
          exact (letters_case (hr e he)).2.2.2

theorem capitalWords_of_isAscii {ws : List (List Char)} (h : ∀ w ∈ ws, IsAscii w) :
    letters (ws.flatMap capitalWord) = letters ws.flatten ∧ IsAscii (ws.flatMap capitalWord) := by
  induction ws with
  | nil => exact ⟨rfl, by decide⟩
  | cons w ws ih =>
      obtain ⟨hletters, hascii⟩ := ih fun v hv => h v (List.mem_cons_of_mem w hv)
      have hw := capitalWord_of_isAscii (h w (by simp))
      rw [List.flatMap_cons, List.flatten_cons, letters_append, letters_append, hw.1, hletters]
      exact ⟨rfl, hw.2.append hascii⟩

/-- **In ASCII a name with inner capitals has the letters of the name and no others.** -/
theorem letters_pascal {name : List Char} (h : IsAscii name) :
    letters (pascal name) = letters name ∧ IsAscii (pascal name) := by
  have hascii : ∀ w ∈ words name, IsAscii w := fun w hw c hc =>
    h c (isAlphanumeric_of_mem_words hw hc).1
  have hwords := capitalWords_of_isAscii hascii
  rw [flatten_words, letters_filter_isAlphanumeric] at hwords
  exact hwords

end Text

end DtoForge
