/-
Where the options stand among the arguments of a validator.

The options count only as the last argument, and an argument left out in front of them
would let them be taken for it.  But they are put in as text.  So the statements here cut
the result at its commas again: the arguments that were given come first, unchanged, then
the defaults of the places that are left, and then the options.

An argument with a closing brace is left aside, since the options may be joined to it.
-/
import DtoForge.Proofs.Text.Pieces
import DtoForge.Proofs.Validation.Collapse
import DtoForge.Proofs.Validation.Each

namespace DtoForge.Each

/-! ### Arguments put behind others -/

/-- An argument that is read as it is written: no comma ends it early, and no white space in
front of it is dropped. -/
def IsArgument (m : List Char) : Prop :=
  ',' ∉ m ∧ Text.trimStart m = m

instance (m : List Char) : Decidable (IsArgument m) :=
  inferInstanceAs (Decidable (_ ∧ _))

theorem append_eq (s : List Char) (more : List (List Char)) :
    append s more = s ++ more.flatMap fun m => ',' :: ' ' :: m := by
  unfold append
  induction more generalizing s with
  | nil => simp
  | cons m more ih =>
      rw [List.intercalate_cons_cons, ih, List.flatMap_cons]
      simp

theorem splitAt_append {more : List (List Char)} :
    ∀ (s : List Char), (∀ m ∈ more, IsArgument m) →
      Text.splitAt ',' (append s more) = Text.splitAt ',' s ++ more.map (' ' :: ·) := by
  simp only [append_eq]
  induction more with
  | nil => intro s _; simp
  | cons m more ih =>
      intro s hmore
      have hm : ',' ∉ m := (hmore m (by simp)).1
      have hpiece : Text.splitAt ',' (' ' :: m) = [' ' :: m] := by
        refine Text.splitWhere_eq_singleton fun c hc => ?_
        rw [beq_eq_false_iff_ne]
        intro h
        subst h
        exact hm (by simpa using hc)
      have hcut : Text.splitAt ',' (s ++ ',' :: ' ' :: m) = Text.splitAt ',' s ++ [' ' :: m] := by
        rw [← hpiece]
        exact Text.splitWhere_append_cons (by simp) s (' ' :: m)
      have hassoc : s ++ (m :: more).flatMap (fun m => ',' :: ' ' :: m)
          = (s ++ ',' :: ' ' :: m) ++ more.flatMap fun m => ',' :: ' ' :: m := by
        simp
      rw [hassoc, ih _ fun n hn => hmore n (by simp [hn]), hcut]
      simp

theorem arguments_ne_nil (s : List Char) : arguments s ≠ [] := by
  unfold arguments
  cases hs : Text.splitAt ',' s with
  | nil => exact absurd hs (Text.splitWhere_ne_nil _ s)
  | cons first rest => simp

/-- Arguments that are put behind a text are read behind those of the text. -/
theorem arguments_append {more : List (List Char)} (hmore : ∀ m ∈ more, IsArgument m)
    (s : List Char) : arguments (append s more) = arguments s ++ more := by
  have hread : (more.map (' ' :: ·)).map Text.trimStart = more := by
    rw [List.map_map]
    refine (List.map_congr_left fun m hm => ?_).trans (List.map_id more)
    have hblank : isBlank ' ' = true := by decide
    show (' ' :: m).dropWhile isBlank = m
    rw [List.dropWhile_cons_of_pos hblank]
    exact (hmore m hm).2
  unfold arguments
  rw [splitAt_append s hmore]
  cases hs : Text.splitAt ',' s with
  | nil => exact absurd hs (Text.splitWhere_ne_nil _ s)
  | cons first rest =>
      show first :: (rest ++ more.map (' ' :: ·)).map Text.trimStart = _
      rw [List.map_append, hread]
      rfl

/-! ### Default arguments -/

/-- The arguments that a validator has without being given any. -/
def defaultArguments (name : String) : List (List Char) :=
  match Catalog.defaults? name with
  | none => []
  | some defaults => arguments defaults.toList

/-- The defaults of the catalog are written so that they can be put behind others. -/
theorem isArgument_of_mem_parameterized :
    ∀ e ∈ Catalog.parameterized, ∀ m ∈ arguments e.2.toList, IsArgument m := by
  decide +kernel

theorem isArgument_of_mem_defaultArguments {name : String} :
    ∀ m ∈ defaultArguments name, IsArgument m := by
  intro m hm
  unfold defaultArguments at hm
  cases hd : Catalog.defaults? name with
  | none => simp [hd] at hm
  | some d =>
      obtain ⟨hlookup, -⟩ := Option.filter_eq_some_iff.mp hd
      obtain ⟨before, after, hcut, -⟩ := List.lookup_eq_some_iff.mp hlookup
      have hmem : (name, d) ∈ Catalog.parameterized := by simp [hcut]
      rw [hd] at hm
      exact isArgument_of_mem_parameterized _ hmem m hm

/-! ### The rule, by the number of arguments -/

/-- More arguments are given than the validator has places.  An object counts as one. -/
def Exceeds (name s : String) : Prop :=
  (defaultArguments name).length < (arguments (collapse s.toList)).length

instance (name s : String) : Decidable (Exceeds name s) :=
  inferInstanceAs (Decidable (_ < _))

/-- The rule for a text that does not speak of the options: they are joined to an object where
more arguments are given than there are places, and otherwise they stand behind the defaults
that are left. -/
theorem wrap_of_silent {name s : String} (hs : s ≠ "") (heach : holdsText s "each:" = false) :
    (wrap name (some s)).toList
      = if Exceeds name s then (join? s.toList).getD (append s.toList [options])
        else append s.toList
          ((defaultArguments name).drop (arguments (collapse s.toList)).length ++ [options]) := by
  rw [holdsText] at heach
  rw [wrap_of_ne name hs, String.toList_ofList]
  unfold lift
  rw [if_neg (Bool.eq_false_iff.mp heach)]
  cases hdefaults : Catalog.defaults? name with
  | none =>
      -- without places any argument is one more than there are
      have hexceeds : Exceeds name s := by
        unfold Exceeds defaultArguments
        rw [hdefaults]
        exact List.length_pos_iff.mpr (arguments_ne_nil _)
      exact (if_pos hexceeds).symm
  | some defaults =>
      have hplaces : defaultArguments name = arguments defaults.toList := by
        unfold defaultArguments
        rw [hdefaults]
      by_cases hexceeds : Exceeds name s
      · rw [if_pos hexceeds]
        unfold Exceeds at hexceeds
        rw [hplaces] at hexceeds
        exact if_pos hexceeds
      · rw [if_neg hexceeds, hplaces]
        unfold Exceeds at hexceeds
        rw [hplaces] at hexceeds
        exact if_neg hexceeds

theorem collapse_eq_self {s : List Char} (h : '\x7d' ∉ s) : collapse s = s := by
  refine collapse_of_not_hasObject ?_
  rintro ⟨before, rest, rfl, inner, behind, rfl, -⟩
  simp at h

theorem join?_eq_none {s : List Char} (h : '\x7d' ∉ s) : join? s = none := by
  cases hjoin : join? s with
  | none => rfl
  | some joined =>
      obtain ⟨head, blank, hs, -⟩ := of_join? hjoin
      exact absurd (by simp [hs]) h

theorem wrap_of_notMem {name s : String} (hs : s ≠ "") (hbrace : '\x7d' ∉ s.toList)
    (heach : holdsText s "each:" = false) :
    (wrap name (some s)).toList
      = append s.toList
        ((defaultArguments name).drop (arguments s.toList).length ++ [options]) := by
  rw [wrap_of_silent hs heach, collapse_eq_self hbrace, join?_eq_none hbrace]
  by_cases hexceeds : Exceeds name s
  · have hle : (defaultArguments name).length ≤ (arguments s.toList).length := by
      unfold Exceeds at hexceeds
      rw [collapse_eq_self hbrace] at hexceeds
      omega
    rw [if_pos hexceeds, List.drop_eq_nil_of_le hle]
    rfl
  · rw [if_neg hexceeds]

/-! ### Arguments of the whole -/

/-- The arguments that a text gives.  The empty text gives none, as no text does. -/
def given (argument : Option String) : List (List Char) :=
  if argument.getD "" = "" then [] else arguments (argument.getD "").toList

/-- Where nothing is given, the defaults are written out in front of the options. -/
theorem arguments_wrap_of_empty {name : String} {argument : Option String}
    (hempty : argument.getD "" = "") :
    arguments (wrap name argument).toList = defaultArguments name ++ [options] := by
  simp only [wrap, hempty, String.toList_empty, defaultArguments]
  cases Catalog.defaults? name with
  | none => decide
  | some defaults =>
      have hlast : ∀ m ∈ [options], IsArgument m := by decide
      rw [Option.map_some, String.toList_ofList]
      exact arguments_append hlast defaults.toList

/-- Where something is given, only the defaults of the places behind it are written out. -/
theorem arguments_wrap_of_notMem {name s : String} (hs : s ≠ "") (hbrace : '\x7d' ∉ s.toList)
    (heach : holdsText s "each:" = false) :
    arguments (wrap name (some s)).toList
      = arguments s.toList
        ++ ((defaultArguments name).drop (arguments s.toList).length ++ [options]) := by
  have hmore : ∀ m ∈ (defaultArguments name).drop (arguments s.toList).length ++ [options],
      IsArgument m := by
    intro m hm
    rcases List.mem_append.mp hm with hm | hm
    · exact isArgument_of_mem_defaultArguments m (List.mem_of_mem_drop hm)
    · rw [List.mem_singleton.mp hm]
      decide
  rw [wrap_of_notMem hs hbrace heach]
  exact arguments_append hmore s.toList

/-- **The options are the last argument, and stand behind all places of the validator.**

What is given keeps its place, whatever the defaults are, and a default is put in only for a
place for which nothing is given. -/
theorem arguments_wrap (name : String) (argument : Option String)
    (hbrace : '\x7d' ∉ (argument.getD "").toList)
    (heach : holdsText (argument.getD "") "each:" = false) :
    arguments (wrap name argument).toList
        = given argument ++ (defaultArguments name).drop (given argument).length ++ [options] ∧
      (defaultArguments name).length < (arguments (wrap name argument).toList).length := by
  have hwrap : arguments (wrap name argument).toList
      = given argument ++ (defaultArguments name).drop (given argument).length ++ [options] := by
    by_cases hempty : argument.getD "" = ""
    · rw [arguments_wrap_of_empty hempty, given, if_pos hempty]
      rfl
    · cases argument with
      | none => exact absurd rfl hempty
      | some s =>
          rw [given, if_neg hempty, List.append_assoc]
          exact arguments_wrap_of_notMem hempty hbrace heach
  refine ⟨hwrap, ?_⟩
  rw [hwrap]
  simp only [List.length_append, List.length_drop, List.length_singleton]
  omega

/-- One of two places is given, and the default of the other stands in front of the options. -/
theorem arguments_wrap_length :
    '\x7d' ∉ ((some "3 ").getD "").toList ∧ holdsText ((some "3 ").getD "") "each:" = false ∧
      wrap "Length" (some "3 ") = "3 , 10, \x7b each: true \x7d" ∧
      arguments (wrap "Length" (some "3 ")).toList
        = ["3 ".toList] ++ ["10".toList] ++ [options] ∧
      2 < (arguments (wrap "Length" (some "3 ")).toList).length := by
  have hbrace : '\x7d' ∉ ((some "3 ").getD "").toList := by decide
  have heach : holdsText ((some "3 ").getD "") "each:" = false := by decide +kernel
  have hplaces := arguments_wrap "Length" (some "3 ") hbrace heach
  have hgiven : given (some "3 ") = ["3 ".toList] := by decide
  have hslots : defaultArguments "Length" = ["0".toList, "10".toList] := by decide +kernel
  rw [hgiven, hslots] at hplaces
  exact ⟨hbrace, heach, by decide +kernel, hplaces⟩

end DtoForge.Each
