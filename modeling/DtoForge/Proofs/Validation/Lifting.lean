/-
The validators of a list are those of one element, asked of each.

A field is taken twice, as one value and as a list, with the same documentation.  The list is
marked as one behind its presence, and then both have validators of the same names in the
same order.  Asking each element happens in three places of the synthesis, twice before the
documentation replaces anything and once after; it is one map at the end, since replacing
looks at names alone and asking never changes a name.
-/
import DtoForge.Proofs.Validation.Synthesis

namespace DtoForge.Validators

/-- A validator of one element as the list wears it.  The class of the elements is told as it
is, and what is about the whole collection is not asked of an element. -/
def lifted (a : Decorator) : Decorator :=
  if a.name = "Type" ∨ a.name ∈ Catalog.collection then a
  else { a with argument := some (Each.wrap a.name a.argument) }

@[simp] theorem lifted_name (a : Decorator) : (lifted a).name = a.name := by
  unfold lifted
  split <;> rfl

theorem onElements_true {a : Decorator} (h : a.name ≠ "Type") : onElements true a = lifted a := by
  simp [onElements, lifted, Catalog.isCollection, h]

@[simp] theorem onElements_false (a : Decorator) : onElements false a = a := rfl

theorem filter_map_lifted (p : String → Bool) (as : List Decorator) :
    (as.map lifted).filter (fun a => p a.name) = (as.filter fun a => p a.name).map lifted := by
  rw [List.filter_map]
  simp [Function.comp_def]

section

variable (d : Descriptor)

theorem isStructured_isList (isList : Bool) :
    ({ d with isList := isList } : Descriptor).isStructured = d.isStructured := rfl

/-- What the documentation asks for is asked of each element of a list. -/
theorem requested_list :
    requested { d with isList := true } = (requested { d with isList := false }).map lifted := by
  unfold requested
  cases d.documentation with
  | none => rfl
  | some text =>
      simp only [List.map_map]
      refine List.map_congr_left fun a ha => onElements_true ?_
      obtain ⟨n, hn, hfind⟩ := List.mem_filterMap.mp ha
      rw [find?_name hfind]
      rintro rfl
      exact notMem_names_of_structural (by decide) hn

/-- What follows from the type is asked of each element, and the class is told as it is. -/
theorem ofType_list (nested : String) :
    ofType { d with isList := true } nested
      = (ofType { d with isList := false } nested).map lifted := by
  by_cases hs : d.isStructured = true
  · have htype : lifted ⟨"Type", some ("() => " ++ nested)⟩
        = ⟨"Type", some ("() => " ++ nested)⟩ := by simp [lifted]
    simp only [ofType, isStructured_isList, hs, if_true, onElements_false, List.map_cons,
      List.map_nil, htype]
    rw [onElements_true (by decide)]
  · simp only [ofType, isStructured_isList, hs, Bool.false_eq_true, if_false, onElements_false]
    cases hn : Catalog.ofScalar? d.type with
    | none => rfl
    | some n =>
        have hne : (Decorator.bare n).name ≠ "Type" := by
          rintro rfl
          exact notMem_structural_of_ofScalar? hn (by decide)
        simp [onElements_true hne]

/-- Behind the presence marker a list has its own, and then the validators of one element. -/
theorem afterPresence_list (nested : String) :
    afterPresence { d with isList := true } nested
      = .bare "IsArray" :: (afterPresence { d with isList := false } nested).map lifted := by
  have hnames : (requested { d with isList := true }).map (·.name)
      = (requested { d with isList := false }).map (·.name) := by
    simp [requested_list]
  rw [afterPresence_eq, afterPresence_eq, hnames, requested_list, ofType_list,
    filter_map_lifted (· ∉ (requested { d with isList := false }).map (·.name)), List.map_append,
    List.map_append]
  rfl

end

/-- **The validators of a list are those of one element, each asked of every element.**

Presence is marked as for one value.  The marker of a list stands behind it, and then the
validators follow under the same names in the same order. -/
theorem synthesize_list (d : Descriptor) (namer : String → String) :
    ∃ mark rest,
      synthesize { d with isList := false } (namer d.type) = mark :: rest ∧
      synthesize { d with isList := true } (namer d.type)
        = mark :: .bare "IsArray" :: rest.map lifted := by
  refine ⟨presence d, afterPresence { d with isList := false } (namer d.type), ?_, ?_⟩
  · rw [synthesize_eq_cons]
    rfl
  · rw [synthesize_eq_cons, afterPresence_list]
    rfl

end DtoForge.Validators
