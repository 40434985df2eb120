/-
How the validators of a field are arranged, whatever its documentation says.

The documentation may hold anything: directives that break off, run into each other or
repeat.  All that a search asks of it is whether a name stands behind a mark in a place
where its word ends, and that is asked of each name of the catalog by itself.  So the names
that are found are a part of the catalog, in its order.

In front of them stand the markers of presence and of a list and what follows from the type.
None of that is in the catalog but the validator of a scalar, and where the documentation
asks for that one it leaves its place, so no name stands twice.
-/
import Mathlib.Data.List.Nodup
import DtoForge.Proofs.Text.Search
import DtoForge.Proofs.Validation.Synthesis

namespace DtoForge

/-! ### What a documentation mentions -/

namespace Directive

/-- The documentation has the name behind a mark, in a place where its word ends. -/
def Mentions (documentation name : String) : Prop :=
  ∃ before after, documentation = before ++ "@" ++ name ++ after ∧
    ∀ c ∈ after.toList.head?, isWord c = false

theorem atWordEnd_iff (s : List Char) :
    atWordEnd s = true ↔ ∀ c ∈ s.head?, isWord c = false := by
  cases s <;> simp [atWordEnd]

theorem isSome_find?_iff (documentation name : String) :
    (find? documentation name).isSome = true ↔ Mentions documentation name := by
  rw [find?, Option.isSome_map, Text.isSome_after?_iff (by simp)]
  constructor
  · rintro ⟨before, rest, hcut, hend⟩
    refine ⟨String.ofList before, String.ofList rest, ?_, ?_⟩
    · rw [← String.toList_inj, hcut]
      simp
    · simpa using (atWordEnd_iff rest).mp hend
  · rintro ⟨before, after, rfl, hend⟩
    exact ⟨before.toList, after.toList, by simp, (atWordEnd_iff _).mpr hend⟩

instance (documentation name : String) : Decidable (Mentions documentation name) :=
  decidable_of_iff _ (isSome_find?_iff documentation name)

end Directive

/-- The documentation of the field mentions the name. -/
def Descriptor.Mentions (d : Descriptor) (name : String) : Prop :=
  ∃ text ∈ d.documentation, Directive.Mentions text name

namespace Validators

theorem mem_names_requested {d : Descriptor} {n : String} :
    n ∈ (requested d).map (·.name) ↔ n ∈ Catalog.names ∧ d.Mentions n := by
  rw [names_requested, List.mem_filter, Option.any_eq_true]
  simp only [Descriptor.Mentions, Directive.isSome_find?_iff, Option.mem_def]

theorem pairwise_names_requested (d : Descriptor) :
    ((requested d).map (·.name)).Pairwise fun m n =>
      Catalog.names.idxOf m < Catalog.names.idxOf n := by
  have hcatalog : Catalog.names.Pairwise fun m n =>
      Catalog.names.idxOf m < Catalog.names.idxOf n := by
    rw [List.pairwise_iff_getElem]
    intro i j hi hj hij
    rwa [Catalog.names_nodup.idxOf_getElem i hi, Catalog.names_nodup.idxOf_getElem j hj]
  exact hcatalog.sublist (names_requested_sublist d)

/-! ### What follows from the type -/

/-- The names of what follows from the type and is not asked for. -/
def typeNames (d : Descriptor) : List String :=
  if d.isStructured then ["ValidateNested", "Type"]
  else (Catalog.ofScalar? d.type).toList.filter (· ∉ (requested d).map (·.name))

theorem notMem_names_requested_of_nested {d : Descriptor} {n : String}
    (h : n ∈ ["ValidateNested", "Type"]) : n ∉ (requested d).map (·.name) := by
  have hsub : ∀ n ∈ ["ValidateNested", "Type"], n ∈ "ValidateNested" :: structural := by decide
  exact notMem_names_requested (hsub n h)

theorem names_filter (p : String → Bool) (as : List Decorator) :
    (as.filter fun a => p a.name).map (·.name) = (as.map (·.name)).filter p := by
  rw [List.filter_map]
  rfl

/-- What follows from the type keeps its place unless it is asked for. -/
theorem names_ofType_filter (d : Descriptor) (nested : String) :
    ((ofType d nested).map (·.name)).filter (· ∉ (requested d).map (·.name)) = typeNames d := by
  unfold ofType typeNames
  by_cases hs : d.isStructured = true
  · rw [if_pos hs, if_pos hs, List.map_cons, List.map_singleton, onElements_name]
    exact List.filter_eq_self.mpr fun n hn =>
      decide_eq_true (notMem_names_requested_of_nested hn)
  · rw [if_neg hs, if_neg hs]
    cases Catalog.ofScalar? d.type <;> simp [Decorator.bare]

theorem notMem_markers_of_mem_typeNames {d : Descriptor} {n : String} (h : n ∈ typeNames d) :
    n ∉ ["IsNotEmpty", "IsOptional", "IsArray"] := by
  have hnested : ∀ n ∈ ["ValidateNested", "Type"],
      n ∉ ["IsNotEmpty", "IsOptional", "IsArray"] := by decide
  have hsub : ∀ n ∈ ["IsNotEmpty", "IsOptional", "IsArray"], n ∈ structural := by decide
  unfold typeNames at h
  split at h
  · exact hnested n h
  · have hscalar := List.mem_of_mem_filter h
    rw [Option.mem_toList] at hscalar
    exact fun hn => notMem_structural_of_ofScalar? hscalar (hsub n hn)

theorem nodup_typeNames (d : Descriptor) : (typeNames d).Nodup := by
  unfold typeNames
  split
  · decide
  · refine List.Pairwise.filter _ ?_
    cases Catalog.ofScalar? d.type <;> simp

/-- What is asked for has left its place. -/
theorem disjoint_typeNames (d : Descriptor) :
    (typeNames d).Disjoint ((requested d).map (·.name)) := by
  intro n htype hasked
  unfold typeNames at htype
  split at htype
  · exact notMem_names_requested_of_nested htype hasked
  · exact of_decide_eq_true (List.mem_filter.mp htype).2 hasked

/-! ### The arrangement -/

/-- The markers of presence and, on a list, of a list. -/
def markers (d : Descriptor) : List String :=
  (if d.isRequired then "IsNotEmpty" else "IsOptional")
    :: if d.isList then ["IsArray"] else []

/-- Markers are marks of presence and of a list, and each of them stands once. -/
theorem markers_spec (d : Descriptor) :
    (markers d).Nodup ∧ ∀ n ∈ markers d, n ∈ ["IsNotEmpty", "IsOptional", "IsArray"] := by
  unfold markers
  cases d.isRequired <;> cases d.isList <;> decide

/-- The names of the validators of a field, place by place. -/
theorem names_synthesize (d : Descriptor) (nested : String) :
    (synthesize d nested).map (·.name)
      = markers d ++ (typeNames d ++ (requested d).map (·.name)) := by
  have htype : ((ofType d nested).filter fun a => a.name ∉ (requested d).map (·.name)).map (·.name)
      = typeNames d := by
    rw [names_filter (· ∉ (requested d).map (·.name)), names_ofType_filter]
  rw [synthesize_eq_cons, afterPresence_eq, List.map_cons, List.map_append, List.map_append, htype,
    markers]
  cases d.isList <;> rfl

/-- How the names of validators are arranged: the markers, what follows from the type, and
what the documentation asks for. -/
structure Arranged (d : Descriptor) (typed asked names : List String) : Prop where
  eq : names = markers d ++ (typed ++ asked)
  nodup : names.Nodup
  first : names[0]? = some (if d.isRequired then "IsNotEmpty" else "IsOptional")
  second : names[1]? = some "IsArray" ↔ d.isList = true
  /-- The markers stand in front and nowhere else. -/
  unmarked : ∀ n ∈ typed ++ asked, n ∉ ["IsNotEmpty", "IsOptional", "IsArray"]
  structured : d.isStructured = true → typed = ["ValidateNested", "Type"]
  /-- One validator at most follows from a scalar type, and none that is asked for. -/
  scalar : d.isStructured = false → typed.length ≤ 1 ∧
    ∀ n, n ∈ typed ↔ Catalog.ofScalar? d.type = some n ∧ ¬(n ∈ Catalog.names ∧ d.Mentions n)
  increasing : asked.Pairwise fun m n => Catalog.names.idxOf m < Catalog.names.idxOf n
  asked_iff : ∀ n, n ∈ asked ↔ n ∈ Catalog.names ∧ d.Mentions n

/-- What stands behind the markers is none. -/
theorem notMem_markers_of_mem {d : Descriptor} {n : String}
    (h : n ∈ typeNames d ++ (requested d).map (·.name)) :
    n ∉ ["IsNotEmpty", "IsOptional", "IsArray"] := by
  rcases List.mem_append.mp h with htype | hasked
  · exact notMem_markers_of_mem_typeNames htype
  · have hsub : ∀ n ∈ ["IsNotEmpty", "IsOptional", "IsArray"],
        n ∈ "ValidateNested" :: structural := by decide
    exact fun hn => notMem_names_requested (hsub n hn) hasked

theorem nodup_names_synthesize (d : Descriptor) (nested : String) :
    ((synthesize d nested).map (·.name)).Nodup := by
  have hasked : ((requested d).map (·.name)).Nodup :=
    (names_requested_sublist d).nodup Catalog.names_nodup
  have hrest : (typeNames d ++ (requested d).map (·.name)).Nodup :=
    (nodup_typeNames d).append hasked (disjoint_typeNames d)
  rw [names_synthesize]
  refine (markers_spec d).1.append hrest fun n hmarker hn => ?_
  exact notMem_markers_of_mem hn ((markers_spec d).2 n hmarker)

/-- **Whatever the documentation says, validators keep their arrangement.**

No name stands twice.  Presence is marked first and a list second, and neither is marked
again.  An embedded object is validated next, or at most one validator follows from a scalar
type.  The rest follows the order of the catalog, and of the catalog exactly the names that
the documentation mentions are there. -/
theorem arranged_synthesize (d : Descriptor) (namer : String → String) :
    ∃ typed asked,
      Arranged d typed asked ((synthesize d (namer d.type)).map (·.name)) := by
  have heq := names_synthesize d (namer d.type)
  refine ⟨typeNames d, (requested d).map (·.name), ?_⟩
  refine {
    eq := heq
    nodup := nodup_names_synthesize d _
    first := ?first
    second := ?second
    unmarked := fun n => notMem_markers_of_mem
    structured := fun hs => if_pos hs
    scalar := ?scalar
    increasing := pairwise_names_requested d
    asked_iff := fun n => mem_names_requested }
  case first =>
    rw [heq]
    rfl
  case second =>
    rw [heq, markers]
    by_cases hlist : d.isList = true
    · simp [hlist]
    · have hbehind : "IsArray" ∉ typeNames d ++ (requested d).map (·.name) := fun hn =>
        notMem_markers_of_mem hn (by decide)
      simp only [hlist, Bool.false_eq_true, if_false, List.cons_append, List.nil_append,
        List.getElem?_cons_succ, iff_false]
      exact fun h => hbehind (List.mem_of_getElem? h)
  case scalar =>
    intro hs
    rw [typeNames, if_neg (by simp [hs])]
    constructor
    · refine Nat.le_trans (List.length_filter_le _ _) ?_
      cases Catalog.ofScalar? d.type <;> simp
    · intro n
      rw [List.mem_filter, decide_eq_true_eq, mem_names_requested, Option.mem_toList]

end Validators

end DtoForge
