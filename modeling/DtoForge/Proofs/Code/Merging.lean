/-
Merging in the order of first mention.

Modules and names are collected alike: what is there already is not added again, and
everything else goes to the end.  So what has been collected is the list of what was asked
for, without the later mentions.

Absorbing one statement does one of two things, to one statement each.  It joins the
statement for its module, or it stands at the end because there is none.  Statements for other
modules pass.  From this follows what a merged statement holds: the names that the statements
of its module ask for, each where it is mentioned first, provided that none of these statements
repeats a name by itself.

Requiring names one by one comes to the same as merging a statement for each of them, because
a name that is there already would be absorbed without a trace.
-/
import Mathlib.Data.Prod.Basic
import DtoForge.Proofs.Code.Import

namespace DtoForge.Import

/-! ### Mentions -/

/-- What is collected without repetition is what was mentioned, without the later mentions. -/
theorem foldl_addName_eq_eraseDups (names : List String) :
    names.foldl addName [] = names.eraseDups := by
  induction names using List.reverseRecOn with
  | nil => rfl
  | append_singleton names name ih =>
      rw [List.foldl_append, ih, List.eraseDups_append]
      by_cases hmem : name ∈ names
      · simp [addName, List.removeAll, hmem]
      · simp [addName, List.removeAll, hmem, List.eraseDups_cons]

theorem nodup_eraseDups (names : List String) : names.eraseDups.Nodup := by
  rw [← foldl_addName_eq_eraseDups]
  exact nodup_foldl_addName List.nodup_nil

theorem eraseDups_of_nodup {names : List String} (h : names.Nodup) : names.eraseDups = names := by
  induction names with
  | nil => rfl
  | cons name names ih =>
      obtain ⟨hnew, hrest⟩ := List.nodup_cons.mp h
      have hkept : names.filter (fun x => !x == name) = names :=
        List.filter_eq_self.mpr fun x hx => by
          simpa using fun heq : x = name => hnew (heq ▸ hx)
      rw [List.eraseDups_cons, hkept, ih hrest]

/-- Names that are added to first mentions are mentioned after them. -/
theorem foldl_addName_eraseDups (names added : List String) :
    added.foldl addName names.eraseDups = (names ++ added).eraseDups := by
  rw [← foldl_addName_eq_eraseDups, ← List.foldl_append, foldl_addName_eq_eraseDups]

/-! ### What statements ask for -/

/-- The names that statements import, each with its module. -/
def pairs (imports : List Import) : List (String × String) :=
  imports.flatMap fun i => i.names.map (i.source, ·)

/-- The names that statements import from one module, with repetitions. -/
def namesFrom (imports : List Import) (source : String) : List String :=
  (imports.filter (·.source == source)).flatMap (·.names)

theorem mem_pairs {imports : List Import} {p : String × String} :
    p ∈ pairs imports ↔ provides imports p.1 p.2 = true := by
  obtain ⟨source, name⟩ := p
  simp only [pairs, provides_iff, List.mem_flatMap, List.mem_map, Prod.mk.injEq]
  constructor
  · rintro ⟨i, hi, n, hn, hsource, rfl⟩
    exact ⟨i, hi, hsource, hn⟩
  · rintro ⟨i, hi, hsource, hname⟩
    exact ⟨i, hi, name, hname, hsource, rfl⟩

theorem namesFrom_concat (imports : List Import) (i : Import) (source : String) :
    namesFrom (imports ++ [i]) source
      = namesFrom imports source ++ if i.source = source then i.names else [] := by
  unfold namesFrom
  rw [List.filter_append, List.flatMap_append]
  by_cases hsame : i.source = source
  · simp [hsame]
  · simp [hsame]

theorem namesFrom_eq_nil {imports : List Import} {source : String}
    (h : source ∉ imports.map (·.source)) : namesFrom imports source = [] := by
  have hnone : imports.filter (·.source == source) = [] :=
    List.filter_eq_nil_iff.mpr fun i hi => by
      simpa using fun heq : i.source = source => h (heq ▸ List.mem_map_of_mem hi)
  rw [namesFrom, hnone, List.flatMap_nil]

theorem nodup_pairs {imports : List Import} (hsources : (imports.map (·.source)).Nodup)
    (hnames : ∀ i ∈ imports, i.names.Nodup) : (pairs imports).Nodup := by
  refine List.nodup_flatMap.mpr ⟨fun i hi => ?_, ?_⟩
  · exact (hnames i hi).map (Prod.mk_right_injective i.source)
  · refine (List.pairwise_map.mp hsources).imp fun hne p hp hp' => ?_
    obtain ⟨a, -, rfl⟩ := List.mem_map.mp hp
    obtain ⟨b, -, heq⟩ := List.mem_map.mp hp'
    exact hne (congrArg Prod.fst heq).symm

/-! ### Absorbing a statement -/

/-- A statement after another one was absorbed is for another module, or has been joined, or
is the new one. -/
theorem mem_absorb {i j : Import} :
    ∀ {merged : List Import}, (merged.map (·.source)).Nodup → j ∈ absorb i merged →
      (j ∈ merged ∧ i.source ≠ j.source) ∨
        (∃ k ∈ merged, k.source = i.source ∧
          j = { k with names := i.names.foldl addName k.names }) ∨
        (i.source ∉ merged.map (·.source) ∧ j = i) := by
  intro merged
  induction merged with
  | nil =>
      intro _ hj
      exact Or.inr (Or.inr ⟨List.not_mem_nil, List.mem_singleton.mp hj⟩)
  | cons k merged ih =>
      intro hnodup hj
      rw [List.map_cons, List.nodup_cons] at hnodup
      rw [absorb] at hj
      by_cases hsame : k.source = i.source
      · rw [if_pos hsame] at hj
        rcases List.mem_cons.mp hj with rfl | hj
        · exact Or.inr (Or.inl ⟨k, by simp, hsame, rfl⟩)
        · refine Or.inl ⟨List.mem_cons_of_mem k hj, fun heq => hnodup.1 ?_⟩
          rw [hsame, heq]
          exact List.mem_map_of_mem hj
      · rw [if_neg hsame] at hj
        rcases List.mem_cons.mp hj with rfl | hj
        · exact Or.inl ⟨by simp, Ne.symm hsame⟩
        · rcases ih hnodup.2 hj with ⟨hj, hne⟩ | ⟨l, hl, hsource, rfl⟩ | ⟨hnew, rfl⟩
          · exact Or.inl ⟨List.mem_cons_of_mem k hj, hne⟩
          · exact Or.inr (Or.inl ⟨l, List.mem_cons_of_mem k hl, hsource, rfl⟩)
          · refine Or.inr (Or.inr ⟨?_, rfl⟩)
            rw [List.map_cons, List.mem_cons, not_or]
            exact ⟨Ne.symm hsame, hnew⟩

/-- A name that is there already is absorbed without a trace. -/
theorem absorb_of_provides {source name : String} :
    ∀ {merged : List Import}, (merged.map (·.source)).Nodup → provides merged source name = true →
      absorb ⟨source, [name]⟩ merged = merged := by
  intro merged
  induction merged with
  | nil => exact fun _ h => absurd h (by simp [provides])
  | cons k merged ih =>
      intro hnodup h
      rw [List.map_cons, List.nodup_cons] at hnodup
      obtain ⟨i, hi, hsource, hname⟩ := provides_iff.mp h
      rw [absorb]
      by_cases hsame : k.source = source
      · -- The statements are for different modules, so the one with the name is the first.
        have hfirst : i = k := by
          rcases List.mem_cons.mp hi with heq | hi
          · exact heq
          · exact absurd (hsame.trans hsource.symm ▸ List.mem_map_of_mem hi) hnodup.1
        have hthere : addName k.names name = k.names := if_pos (hfirst ▸ hname)
        rw [if_pos hsame, List.foldl_cons, List.foldl_nil, hthere]
      · have hrest : i ∈ merged := by
          rcases List.mem_cons.mp hi with rfl | hi
          · exact absurd hsource hsame
          · exact hi
        rw [if_neg hsame, ih hnodup.2 (provides_iff.mpr ⟨i, hrest, hsource, hname⟩)]

/-! ### Merging -/

theorem sources_merge_eq_eraseDups (imports : List Import) :
    (merge imports).map (·.source) = (imports.map (·.source)).eraseDups := by
  rw [sources_merge, foldl_addName_eq_eraseDups]

/-- **A merged statement has the names that are asked for of its module, each where it is
mentioned first**, if no statement repeats a name by itself. -/
theorem names_of_mem_merge {imports : List Import} (h : ∀ i ∈ imports, i.names.Nodup) :
    ∀ j ∈ merge imports, j.names = (namesFrom imports j.source).eraseDups := by
  induction imports using List.reverseRecOn with
  | nil => simp [merge]
  | append_singleton imports i ih =>
      intro j hj
      have hmerged := ih fun k hk => h k (List.mem_append_left _ hk)
      have hi : i.names.Nodup := h i (by simp)
      rw [merge_concat] at hj
      rw [namesFrom_concat]
      rcases mem_absorb (nodup_sources_merge imports) hj with
        ⟨hj, hne⟩ | ⟨k, hk, hsource, rfl⟩ | ⟨hnew, rfl⟩
      · rw [if_neg hne, List.append_nil]
        exact hmerged j hj
      · rw [if_pos hsource.symm]
        show i.names.foldl addName k.names = _
        rw [hmerged k hk, foldl_addName_eraseDups]
      · rw [sources_merge_eq_eraseDups, List.mem_eraseDups] at hnew
        rw [if_pos rfl, namesFrom_eq_nil hnew, List.nil_append, eraseDups_of_nodup hi]

theorem merge_eq_self {imports : List Import} (h : (imports.map (·.source)).Nodup) :
    merge imports = imports := by
  have hmerge := merge_append_of_disjoint (b := []) h (by simp)
  rwa [List.append_nil, show merge [] = [] from rfl, List.append_nil] at hmerge

/-- Statements, told against those that they were merged from. -/
structure IsMerged (imports merged : List Import) : Prop where
  /-- There is one statement for each module, and modules stand as they are mentioned first. -/
  sources : merged.map (·.source) = (imports.map (·.source)).eraseDups
  nodup_sources : (merged.map (·.source)).Nodup
  /-- Nothing is lost and nothing added. -/
  pairs : ∀ p, p ∈ pairs merged ↔ p ∈ pairs imports
  /-- Names stand as they are mentioned first, if no statement repeats one by itself. -/
  names : (∀ i ∈ imports, i.names.Nodup) → ∀ j ∈ merged,
    j.names.Nodup ∧ j.names = (namesFrom imports j.source).eraseDups
  /-- Merging again changes nothing. -/
  again : merge merged = merged

theorem isMerged_merge (imports : List Import) : IsMerged imports (merge imports) where
  sources := sources_merge_eq_eraseDups imports
  nodup_sources := nodup_sources_merge imports
  pairs p := by rw [mem_pairs, mem_pairs, provides_merge]
  names h j hj := by
    have hnames := names_of_mem_merge h j hj
    exact ⟨hnames ▸ nodup_eraseDups _, hnames⟩
  again := merge_eq_self (nodup_sources_merge imports)

/-! ### Requiring names one by one -/

/-- Names with their modules, required one after the other. -/
def collect (required : List (String × String)) : List Import :=
  required.foldl (fun imports p => require imports p.1 p.2) []

/-- A statement for each name. -/
def single (required : List (String × String)) : List Import :=
  required.map fun p => ⟨p.1, [p.2]⟩

/-- A name that is required is absorbed, whether it is there already or not. -/
theorem merge_require (imports : List Import) (source name : String) :
    merge (require imports source name) = absorb ⟨source, [name]⟩ (merge imports) := by
  unfold require
  by_cases hthere : provides imports source name = true
  · rw [if_pos hthere, absorb_of_provides (nodup_sources_merge imports)
      (provides_merge.mpr hthere)]
  · rw [if_neg hthere, merge_concat]

/-- Requiring names is as good as stating each of them. -/
theorem merge_collect (required : List (String × String)) :
    merge (collect required) = merge (single required) := by
  induction required using List.reverseRecOn with
  | nil => rfl
  | append_singleton required p ih =>
      rw [collect, List.foldl_append, List.foldl_cons, List.foldl_nil, merge_require, ← collect, ih,
        single, single, List.map_append, List.map_singleton, merge_concat]

theorem pairs_single (required : List (String × String)) : pairs (single required) = required := by
  simp [pairs, single, List.flatMap_map]

theorem namesFrom_single (required : List (String × String)) (source : String) :
    namesFrom (single required) source = (required.filter (·.1 == source)).map (·.2) := by
  rw [namesFrom, single, List.filter_map, List.flatMap_map]
  exact List.map_eq_flatMap.symm

/-- Required names under their modules, both as they are mentioned first. -/
def grouped (required : List (String × String)) : List Import :=
  (required.map (·.1)).eraseDups.map fun source =>
    ⟨source, ((required.filter (·.1 == source)).map (·.2)).eraseDups⟩

/-- Statements, told against names that were required. -/
structure IsCollected (required : List (String × String)) (merged : List Import) : Prop where
  grouped : merged = grouped required
  pairs : ∀ p, p ∈ pairs merged ↔ p ∈ required
  nodup_pairs : (Import.pairs merged).Nodup

theorem isCollected_merge (required : List (String × String)) :
    IsCollected required (merge (collect required)) := by
  have hmerged := isMerged_merge (single required)
  have hnames := hmerged.names fun i hi => by
    obtain ⟨p, -, rfl⟩ := List.mem_map.mp hi
    exact List.nodup_singleton p.2
  rw [merge_collect]
  refine ⟨?_, ?_, ?_⟩
  · have hsources : (single required).map (·.source) = required.map (·.1) := by
      simp [single, Function.comp_def]
    calc merge (single required)
        = (merge (single required)).map fun j =>
            ⟨j.source, (namesFrom (single required) j.source).eraseDups⟩ := by
          refine (List.map_id _).symm.trans (List.map_congr_left fun j hj => ?_)
          rw [← (hnames j hj).2]
          rfl
      _ = ((merge (single required)).map (·.source)).map fun source =>
            ⟨source, (namesFrom (single required) source).eraseDups⟩ := by
          rw [List.map_map]
          rfl
      _ = Import.grouped required := by
          rw [hmerged.sources, hsources]
          simp only [namesFrom_single, Import.grouped]
  · intro p
    rw [hmerged.pairs, pairs_single]
  · exact Import.nodup_pairs hmerged.nodup_sources fun j hj => (hnames j hj).1

/-- **Merging loses nothing and repeats nothing**, whether statements are given as they are or
collected name by name. -/
theorem isMerged_and_isCollected (imports : List Import) (required : List (String × String)) :
    IsMerged imports (merge imports) ∧ IsCollected required (merge (collect required)) :=
  ⟨isMerged_merge imports, isCollected_merge required⟩

/-- A name that two statements of a module share is listed once, where the first has it. -/
example :
    merge [⟨"./a", ["A"]⟩, ⟨"./b", ["B"]⟩, ⟨"./a", ["A", "A2"]⟩]
      = [⟨"./a", ["A", "A2"]⟩, ⟨"./b", ["B"]⟩] := by
  decide

end DtoForge.Import
