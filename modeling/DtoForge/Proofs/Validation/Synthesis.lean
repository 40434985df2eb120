/-
The validators of a field whose documentation is written from directives.

What the documentation asks for replaces what has the same name and comes last.  The two
lists meet in one name at most: of everything that a field has unasked, only the validator
of a scalar type can stand in the catalog.  The catalog repeats no name, so replacing one
validator after the other comes to one filter and one append.

Asking a validator of each element happens in three places, before and after replacing.
It never changes a name, so it may as well be done once, at the end.
-/
import DtoForge.Proofs.Validation.Directive
import DtoForge.Validation.Synthesis

namespace DtoForge

/-! ### The catalog -/

namespace Catalog

theorem names_nodup : names.Nodup := by
  decide +kernel

theorem isName_of_mem {n : String} (h : n ∈ names) : Directive.IsName n.toList := by
  revert n
  decide +kernel

end Catalog

namespace Validators

/-- What is never asked of each element, the validators of a collection apart. -/
def structural : List String :=
  ["IsNotEmpty", "IsOptional", "IsArray", "Type"]

theorem notMem_names_of_structural {n : String} (h : n ∈ "ValidateNested" :: structural) :
    n ∉ Catalog.names := by
  revert n
  decide +kernel

/-- The validators of scalar types are none of the structural ones. -/
theorem notMem_structural_of_ofScalar? {type n : String} (h : Catalog.ofScalar? type = some n) :
    n ∉ structural := by
  unfold Catalog.ofScalar? at h
  split at h <;> first
    | (simp only [Option.some.injEq] at h; subst h; decide)
    | simp at h

/-! ### Each element -/

/-- The validator as a field that may be a list wears it. -/
def onEach (isList : Bool) (a : Decorator) : Decorator :=
  if isList && !(structural ++ Catalog.collection).contains a.name then
    { a with argument := some (Each.wrap a.name a.argument) }
  else a

@[simp] theorem onEach_name (isList : Bool) (a : Decorator) : (onEach isList a).name = a.name := by
  unfold onEach
  split <;> rfl

theorem onEach_of_mem {isList : Bool} {a : Decorator} (h : a.name ∈ structural) :
    onEach isList a = a := by
  simp [onEach, h]

/-- Outside of the structural names the two ways to ask agree. -/
theorem onElements_eq_onEach {isList : Bool} {a : Decorator} (h : a.name ∉ structural) :
    onElements isList a = onEach isList a := by
  simp [onElements, onEach, Catalog.isCollection, h]

@[simp] theorem onElements_name (isList : Bool) (a : Decorator) :
    (onElements isList a).name = a.name := by
  unfold onElements
  split <;> rfl

/-! ### Replacing -/

theorem foldl_supersede {rs : List Decorator} (hrs : (rs.map (·.name)).Nodup) :
    ∀ ds : List Decorator,
      rs.foldl supersede ds = ds.filter (fun d => d.name ∉ rs.map (·.name)) ++ rs := by
  induction rs with
  | nil => intro ds; simp
  | cons r rs ih =>
      intro ds
      rw [List.map_cons, List.nodup_cons] at hrs
      have hkeep : [r].filter (fun d => d.name ∉ rs.map (·.name)) = [r] :=
        List.filter_eq_self.mpr fun d hd => by
          rw [List.mem_singleton.mp hd]
          exact decide_eq_true hrs.1
      have htwice : ∀ d ∈ ds,
          (decide (d.name ∉ rs.map (·.name)) && d.name != r.name)
            = decide (d.name ∉ (r :: rs).map (·.name)) := by
        intro d _
        by_cases hd : d.name = r.name <;> simp [hd]
      rw [List.foldl_cons, ih hrs.2, supersede, List.filter_append, List.filter_filter,
        List.filter_congr htwice, hkeep, List.append_assoc, List.singleton_append]

/-- Looking names up one by one gives an entry for each name that is found. -/
theorem names_filterMap {find? : String → Option Decorator}
    (hfind : ∀ n a, find? n = some a → a.name = n) :
    ∀ names : List String,
      (names.filterMap find?).map (·.name) = names.filter fun n => (find? n).isSome := by
  intro names
  induction names with
  | nil => rfl
  | cons n names ih =>
      cases hn : find? n with
      | none => simpa [hn] using ih
      | some a => simpa [hn, hfind n a hn] using ih

theorem find?_name {text n : String} {a : Decorator} (h : Directive.find? text n = some a) :
    a.name = n := by
  obtain ⟨rest, -, rfl⟩ := Option.map_eq_some_iff.mp h
  rfl

theorem names_requested (d : Descriptor) :
    (requested d).map (·.name)
      = Catalog.names.filter fun n =>
          d.documentation.any fun text => (Directive.find? text n).isSome := by
  unfold requested
  cases d.documentation with
  | none => simp
  | some text =>
      simpa [Function.comp_def] using names_filterMap (fun _ _ h => find?_name h) Catalog.names

theorem names_requested_sublist (d : Descriptor) :
    ((requested d).map (·.name)).Sublist Catalog.names := by
  rw [names_requested]
  exact List.filter_sublist

/-- What the documentation asks for takes the place of what has the same name. -/
theorem synthesize_eq (d : Descriptor) (nested : String) :
    synthesize d nested
      = (derived d nested).filter (fun a => a.name ∉ (requested d).map (·.name))
        ++ requested d :=
  foldl_supersede ((names_requested_sublist d).nodup Catalog.names_nodup) _

/-! ### What no documentation asks for -/

theorem notMem_names_requested {d : Descriptor} {n : String}
    (h : n ∈ "ValidateNested" :: structural) : n ∉ (requested d).map (·.name) :=
  fun hn => notMem_names_of_structural h ((names_requested_sublist d).subset hn)

theorem name_presence_mem (d : Descriptor) : (presence d).name ∈ structural := by
  unfold presence
  cases d.isRequired <;> decide

/-- What a field wears behind its presence marker. -/
def afterPresence (d : Descriptor) (nested : String) : List Decorator :=
  ((if d.isList then [Decorator.bare "IsArray"] else []) ++ ofType d nested).filter
    (fun a => a.name ∉ (requested d).map (·.name)) ++ requested d

/-- The presence marker comes first, whatever the documentation asks for. -/
theorem synthesize_eq_cons (d : Descriptor) (nested : String) :
    synthesize d nested = presence d :: afterPresence d nested := by
  have hkept := notMem_names_requested (d := d) (List.mem_cons_of_mem _ (name_presence_mem d))
  rw [synthesize_eq, derived, List.cons_append, List.filter_cons, if_pos (decide_eq_true hkept)]
  rfl

/-- The marker of a list is never replaced. -/
theorem afterPresence_eq (d : Descriptor) (nested : String) :
    afterPresence d nested
      = (if d.isList then [.bare "IsArray"] else [])
        ++ ((ofType d nested).filter (fun a => a.name ∉ (requested d).map (·.name))
          ++ requested d) := by
  have hkept : "IsArray" ∉ (requested d).map (·.name) := notMem_names_requested (by decide)
  have hmarker : (if d.isList then [Decorator.bare "IsArray"] else []).filter
      (fun a => a.name ∉ (requested d).map (·.name))
        = if d.isList then [.bare "IsArray"] else [] := by
    refine List.filter_eq_self.mpr fun a ha => ?_
    split at ha
    · rw [List.mem_singleton.mp ha]
      exact decide_eq_true hkept
    · simp at ha
  rw [afterPresence, List.filter_append, hmarker, List.append_assoc]

theorem head?_synthesize (d : Descriptor) (nested : String) :
    (synthesize d nested).head? = some (presence d) := by
  rw [synthesize_eq_cons, List.head?_cons]

/-- The structural validators of a field: its presence, whether it is a list, and the class of
its embedded object. -/
def shape (d : Descriptor) (nested : String) : List Decorator :=
  presence d :: ((if d.isList then [.bare "IsArray"] else [])
    ++ if d.isStructured then [⟨"Type", some ("() => " ++ nested)⟩] else [])

theorem derived_filter_structural (d : Descriptor) (nested : String) :
    (derived d nested).filter (fun a => a.name ∈ structural) = shape d nested := by
  have hlist : (if d.isList then [Decorator.bare "IsArray"] else []).filter
      (fun a => a.name ∈ structural) = if d.isList then [.bare "IsArray"] else [] := by
    cases d.isList <;> rfl
  have htype : (ofType d nested).filter (fun a => a.name ∈ structural)
      = if d.isStructured then [⟨"Type", some ("() => " ++ nested)⟩] else [] := by
    unfold ofType
    by_cases hs : d.isStructured = true
    · rw [if_pos hs, if_pos hs]
      simp [structural, Decorator.bare]
    · rw [if_neg hs, if_neg hs]
      cases hn : Catalog.ofScalar? d.type with
      | none => rfl
      | some n => simp [Decorator.bare, notMem_structural_of_ofScalar? hn]
  rw [derived, shape, List.cons_append, List.filter_cons,
    if_pos (decide_eq_true (name_presence_mem d)), List.filter_append, hlist, htype]

/-- **Documentation changes nothing of the shape.** -/
theorem synthesize_filter_structural (d : Descriptor) (nested : String) :
    (synthesize d nested).filter (fun a => a.name ∈ structural) = shape d nested := by
  have hrequested : (requested d).filter (fun a => a.name ∈ structural) = [] := by
    refine List.filter_eq_nil_iff.mpr fun a ha hs => ?_
    exact notMem_names_requested (List.mem_cons_of_mem _ (of_decide_eq_true hs))
      (List.mem_map_of_mem ha)
  have hderived : ∀ a ∈ derived d nested,
      (decide (a.name ∈ structural) && decide (a.name ∉ (requested d).map (·.name)))
        = decide (a.name ∈ structural) := by
    intro a _
    by_cases hs : a.name ∈ structural
    · simp [hs, notMem_names_requested (d := d) (List.mem_cons_of_mem _ hs)]
    · simp [hs]
  rw [synthesize_eq, List.filter_append, hrequested, List.append_nil, List.filter_filter,
    List.filter_congr hderived, derived_filter_structural]

theorem mem_synthesize_iff {d : Descriptor} {nested : String} {a : Decorator}
    (h : a.name ∈ structural) : a ∈ synthesize d nested ↔ a ∈ shape d nested := by
  rw [← synthesize_filter_structural, List.mem_filter]
  simp [h]

theorem mem_names_synthesize_iff {d : Descriptor} {nested n : String} (h : n ∈ structural) :
    n ∈ (synthesize d nested).map (·.name) ↔ n ∈ (shape d nested).map (·.name) := by
  rw [List.mem_map, List.mem_map]
  constructor
  · rintro ⟨a, ha, rfl⟩
    exact ⟨a, (mem_synthesize_iff h).mp ha, rfl⟩
  · rintro ⟨a, ha, rfl⟩
    exact ⟨a, (mem_synthesize_iff h).mpr ha, rfl⟩

theorem names_shape (d : Descriptor) (nested : String) :
    (shape d nested).map (·.name)
      = (if d.isRequired then "IsNotEmpty" else "IsOptional")
        :: ((if d.isList then ["IsArray"] else [])
          ++ if d.isStructured then ["Type"] else []) := by
  unfold shape presence
  cases d.isList <;> cases d.isStructured <;> rfl

theorem isArray_mem_names_synthesize {d : Descriptor} {nested : String} :
    "IsArray" ∈ (synthesize d nested).map (·.name) ↔ d.isList = true := by
  rw [mem_names_synthesize_iff (by decide), names_shape]
  cases d.isRequired <;> cases d.isList <;> cases d.isStructured <;> decide

/-- A structured field, and nothing else, is validated as an object of a class. -/
theorem type_mem_names_synthesize {d : Descriptor} {nested : String} :
    "Type" ∈ (synthesize d nested).map (·.name) ↔ d.isStructured = true := by
  rw [mem_names_synthesize_iff (by decide), names_shape]
  cases d.isRequired <;> cases d.isList <;> cases d.isStructured <;> decide

/-- The class is the one that the field is embedded as. -/
theorem argument_of_type {d : Descriptor} {nested : String} {a : Decorator}
    (h : a ∈ synthesize d nested) (hname : a.name = "Type") :
    a.argument = some ("() => " ++ nested) := by
  have hshape := (mem_synthesize_iff (by rw [hname]; decide)).mp h
  simp only [shape, List.mem_cons, List.mem_append] at hshape
  rcases hshape with rfl | hlist | htype
  · unfold presence at hname
    cases hrequired : d.isRequired <;> simp [hrequired, Decorator.bare] at hname
  · split at hlist
    · rw [List.mem_singleton.mp hlist] at hname
      exact absurd hname (by decide)
    · simp at hlist
  · split at htype
    · rw [List.mem_singleton.mp htype]
    · simp at htype

/-- The markers of presence. -/
def presenceNames : List String :=
  ["IsOptional", "IsNotEmpty"]

theorem synthesize_filter_presence (d : Descriptor) (nested : String) :
    (synthesize d nested).filter (fun a => a.name ∈ presenceNames) = [presence d] := by
  have hsub : ∀ n ∈ presenceNames, n ∈ structural := by decide
  have hboth : ∀ a ∈ synthesize d nested,
      (decide (a.name ∈ presenceNames) && decide (a.name ∈ structural))
        = decide (a.name ∈ presenceNames) := by
    intro a _
    by_cases ha : a.name ∈ presenceNames
    · simp [ha, hsub _ ha]
    · simp [ha]
  have hmark : (presence d).name ∈ presenceNames := by
    unfold presence
    cases d.isRequired <;> decide
  have hlist : (if d.isList then [Decorator.bare "IsArray"] else []).filter
      (fun a => a.name ∈ presenceNames) = [] := by
    cases d.isList <;> rfl
  have htype : (if d.isStructured then [Decorator.mk "Type" (some ("() => " ++ nested))]
      else []).filter (fun a => a.name ∈ presenceNames) = [] := by
    cases d.isStructured <;> rfl
  rw [← List.filter_congr hboth, ← List.filter_filter, synthesize_filter_structural, shape,
    List.filter_cons, if_pos (decide_eq_true hmark), List.filter_append, hlist, htype]
  rfl

end Validators

end DtoForge
