/-
Validators and the documentation that asks for them.

Two directions.  From a documentation written as directives the validators of a field can
be told without scanning it: what the field has unasked, less a type validator that is
asked for, and then the asked ones in the order of the catalog, each with the arguments of
its first directive.  And validators printed one on each line are such a documentation, so
putting them there asks for exactly them.
-/
import DtoForge.Proofs.Validation.Synthesis

namespace DtoForge

namespace Directive

/-! ### What is asked for -/

/-- The validators that items ask for, in the order of the catalog. -/
def asked (items : List Item) : List Decorator :=
  Catalog.names.filterMap fun n => (items.find? (·.name == n)).map Item.decorator

theorem mem_names_asked {items : List Item} {n : String} :
    n ∈ (asked items).map (·.name) ↔ n ∈ Catalog.names ∧ n ∈ items.map (·.name) := by
  simp only [asked, List.mem_map, List.mem_filterMap, Option.map_eq_some_iff]
  constructor
  · rintro ⟨a, ⟨m, hm, i, hi, rfl⟩, rfl⟩
    have hname : i.name = m := by simpa using List.find?_some hi
    exact ⟨by simpa [Item.decorator, hname] using hm, i, List.mem_of_find?_eq_some hi, rfl⟩
  · rintro ⟨hn, i, hi, rfl⟩
    cases hfind : items.find? (·.name == i.name) with
    | none => simpa using List.find?_eq_none.mp hfind i hi
    | some j =>
        have hname : j.name = i.name := by simpa using List.find?_some hfind
        exact ⟨j.decorator, ⟨i.name, hn, j, hfind, rfl⟩, hname⟩

/-! ### Validators as documentation -/

/-- The directive that a printed validator is. -/
def Item.ofDecorator (a : Decorator) : Item :=
  ⟨a.name, some (a.argument.getD ""), "\n"⟩

theorem linesText_eq_written (as : List Decorator) :
    Decorator.linesText as = written "" (as.map Item.ofDecorator) := by
  have htext : (fun a : Decorator => a.text ++ "\n") = Item.text ∘ Item.ofDecorator := by
    funext a
    simp [Decorator.text, Item.text, Item.tail, Item.ofDecorator, String.append_assoc]
  simp [Decorator.linesText, written, htext]

/-- A validator that printing and reading back keep: its arguments, if it has any, do not
end the directive. -/
def Printable (a : Decorator) : Prop :=
  IsName a.name.toList ∧
    ∀ s ∈ a.argument, s ≠ "" ∧ ∀ c ∈ s.toList, c ≠ ')' ∧ c ≠ '\n' ∧ c ≠ '@'

instance (a : Decorator) : Decidable (Printable a) :=
  decidable_of_iff
    (IsName a.name.toList ∧
      a.argument.all (fun s => s != "" && s.toList.all fun c => c != ')' && c != '\n' && c != '@')
        = true)
    (by simp [Printable, Option.all_eq_true, and_assoc])

theorem Printable.wf {a : Decorator} (h : Printable a) : (Item.ofDecorator a).WF where
  name := h.1
  arguments := by
    intro s hs c hc
    cases ha : a.argument with
    | none =>
        have hempty : s = "" := by simpa [Item.ofDecorator, ha] using hs.symm
        simp [hempty] at hc
    | some t =>
        have hst : t = s := by simpa [Item.ofDecorator, ha] using hs
        exact (h.2 t ha).2 c (hst ▸ hc)
  after := by simp [Item.ofDecorator]
  apart := by simp [Item.ofDecorator]

theorem Printable.decorator_ofDecorator {a : Decorator} (h : Printable a) :
    (Item.ofDecorator a).decorator = a := by
  obtain ⟨name, argument⟩ := a
  cases argument with
  | none => simp [Item.ofDecorator, Item.decorator, Option.filter]
  | some s => simp [Item.ofDecorator, Item.decorator, Option.filter, (h.2 s rfl).1]

/-- Entries whose names follow an order are what looking the names up gives. -/
theorem filterMap_find?_eq {as : List Decorator} :
    ∀ {names : List String}, names.Nodup → (as.map (·.name)).Sublist names →
      (names.filterMap fun n => as.find? (·.name == n)) = as := by
  intro names
  induction names generalizing as with
  | nil =>
      intro _ h
      have has : as = [] := by simpa using h
      simp [has]
  | cons n names ih =>
      intro hnodup h
      rw [List.nodup_cons] at hnodup
      cases as with
      | nil => simp
      | cons a as =>
          by_cases hn : a.name = n
          · have hrest : (as.map (·.name)).Sublist names := by
              rw [List.map_cons, hn, List.cons_sublist_cons] at h
              exact h
            have hskip : ∀ m ∈ names,
                (a :: as).find? (·.name == m) = as.find? (·.name == m) := by
              intro m hm
              have hne : (a.name == m) = false := by
                rw [beq_eq_false_iff_ne, hn]
                exact fun hc => hnodup.1 (hc ▸ hm)
              rw [List.find?_cons, hne]
            have hhead : (a :: as).find? (·.name == n) = some a := by simp [hn]
            rw [List.filterMap_cons, hhead, List.filterMap_congr hskip, ih hnodup.2 hrest]
          · have hrest : ((a :: as).map (·.name)).Sublist names := by
              rw [List.map_cons] at h ⊢
              exact (List.sublist_cons_iff.mp h).resolve_right fun ⟨_, hr, _⟩ =>
                hn (List.cons.inj hr).1
            have hnone : (a :: as).find? (·.name == n) = none := by
              rw [List.find?_eq_none]
              intro b hb hbn
              have hmem := hrest.subset (List.mem_map_of_mem hb)
              exact hnodup.1 ((by simpa using hbn : b.name = n) ▸ hmem)
            rw [List.filterMap_cons, hnone, ih hnodup.2 hrest]

theorem asked_ofDecorator {as : List Decorator} (has : ∀ a ∈ as, Printable a)
    (hsub : (as.map (·.name)).Sublist Catalog.names) :
    asked (as.map Item.ofDecorator) = as := by
  refine (List.filterMap_congr fun n _ => ?_).trans
    (filterMap_find?_eq Catalog.names_nodup hsub)
  rw [List.find?_map, Option.map_map]
  cases hfind : as.find? (·.name == n) with
  | none => simpa [Function.comp_def, Item.ofDecorator] using hfind
  | some a =>
      have ha : a ∈ as := List.mem_of_find?_eq_some hfind
      have hcomp : as.find? ((fun i : Item => i.name == n) ∘ Item.ofDecorator) = some a := hfind
      rw [hcomp, Option.map_some, Function.comp_apply, (has a ha).decorator_ofDecorator]

end Directive

namespace Validators

/-! ### The validators of a documented field -/

/-- The validator of a scalar type, unless the items ask for one of that name. -/
def unaskedScalar? (d : Descriptor) (items : List Directive.Item) : Option String :=
  (Catalog.ofScalar? d.type).filter fun n =>
    !(Catalog.names.contains n && (items.map (·.name)).contains n)

/-- What a field has unasked and keeps where the items ask for their validators. -/
def unasked (d : Descriptor) (nested : String) (items : List Directive.Item) :
    List Decorator :=
  .bare (if d.isRequired then "IsNotEmpty" else "IsOptional")
    :: ((if d.isList then [.bare "IsArray"] else [])
      ++ (if d.isStructured then [.bare "ValidateNested", ⟨"Type", some ("() => " ++ nested)⟩]
          else ((unaskedScalar? d items).map Decorator.bare).toList))

theorem requested_written {d : Descriptor} {lead : String} {items : List Directive.Item}
    (hlead : '@' ∉ lead.toList) (hitems : ∀ i ∈ items, i.WF) :
    requested { d with documentation := some (Directive.written lead items) }
      = (Directive.asked items).map (onEach d.isList) := by
  have hfind : Catalog.names.filterMap (Directive.find? (Directive.written lead items))
      = Directive.asked items :=
    List.filterMap_congr fun n hn =>
      Directive.find?_written hlead hitems (Catalog.isName_of_mem hn)
  simp only [requested, hfind]
  refine List.map_congr_left fun a ha => onElements_eq_onEach fun hs => ?_
  have hmem := (Directive.mem_names_asked.mp (List.mem_map_of_mem ha)).1
  exact notMem_names_of_structural (List.mem_cons_of_mem _ hs) hmem

section Derived

variable (d : Descriptor) (nested : String) (items : List Directive.Item)

/-- Whether the items leave a validator alone. -/
private def isKept (a : Decorator) : Bool :=
  a.name ∉ (Directive.asked items).map (·.name)

private theorem isKept_of_structural {a : Decorator}
    (h : a.name ∈ "ValidateNested" :: structural) : isKept items a = true :=
  decide_eq_true fun hasked =>
    notMem_names_of_structural h (Directive.mem_names_asked.mp hasked).1

private theorem isKept_bare (n : String) :
    isKept items (.bare n) = !(Catalog.names.contains n && (items.map (·.name)).contains n) := by
  rw [Bool.eq_iff_iff]
  simp only [isKept, Decorator.bare, Directive.mem_names_asked, decide_eq_true_eq,
    Bool.not_eq_true', Bool.and_eq_false_iff, List.contains_eq_mem, decide_eq_false_iff_not]
  tauto

private theorem ofType_filter :
    (ofType d nested).filter (isKept items)
      = (if d.isStructured then [.bare "ValidateNested", ⟨"Type", some ("() => " ++ nested)⟩]
         else ((unaskedScalar? d items).map Decorator.bare).toList).map (onEach d.isList) := by
  unfold ofType
  by_cases hs : d.isStructured = true
  · have hnested : onElements d.isList (.bare "ValidateNested")
        = onEach d.isList (.bare "ValidateNested") :=
      onElements_eq_onEach (by decide)
    have htype : onEach d.isList ⟨"Type", some ("() => " ++ nested)⟩
        = ⟨"Type", some ("() => " ++ nested)⟩ :=
      onEach_of_mem (by simp [structural])
    rw [if_pos hs, if_pos hs, hnested, List.map_cons, List.map_singleton, htype]
    refine List.filter_eq_self.mpr fun a ha => isKept_of_structural items ?_
    rcases List.mem_cons.mp ha with rfl | ha
    · simp [Decorator.bare]
    · rw [List.mem_singleton.mp ha]
      simp [structural]
  · rw [if_neg hs, if_neg hs]
    cases hn : Catalog.ofScalar? d.type with
    | none => simp [unaskedScalar?, hn]
    | some n =>
        have hlift : onElements d.isList (.bare n) = onEach d.isList (.bare n) :=
          onElements_eq_onEach (notMem_structural_of_ofScalar? hn)
        have hkept : isKept items (onEach d.isList (.bare n)) = isKept items (.bare n) := by
          simp [isKept]
        have hscalar : unaskedScalar? d items
            = if !(Catalog.names.contains n && (items.map (·.name)).contains n) then some n
              else none := by
          rw [unaskedScalar?, hn]
          rfl
        rw [Option.map_some, Option.toList_some, hlift, List.filter_cons, hkept, isKept_bare,
          hscalar]
        split <;> rfl

/-- What a field has unasked, less what is asked for. -/
private theorem derived_filter :
    (derived d nested).filter (isKept items)
      = (unasked d nested items).map (onEach d.isList) := by
  have hpresence := name_presence_mem d
  have harray : ∀ a ∈ (if d.isList then [Decorator.bare "IsArray"] else []),
      a.name ∈ structural := by
    intro a ha
    split at ha
    · rw [List.mem_singleton.mp ha]
      decide
    · simp at ha
  have hself : (if d.isList then [Decorator.bare "IsArray"] else []).filter (isKept items)
      = (if d.isList then [Decorator.bare "IsArray"] else []).map (onEach d.isList) := by
    rw [List.filter_eq_self.mpr fun a ha =>
      isKept_of_structural items (List.mem_cons_of_mem _ (harray a ha))]
    exact (List.map_id _).symm.trans
      (List.map_congr_left fun a ha => (onEach_of_mem (harray a ha)).symm)
  rw [derived, List.cons_append, List.filter_cons,
    isKept_of_structural items (List.mem_cons_of_mem _ hpresence), if_pos rfl,
    List.filter_append, hself, ofType_filter, unasked, List.map_cons, List.map_append]
  congr 1
  exact (onEach_of_mem hpresence).symm

end Derived

/-- **The validators of a documented field.**

A documentation of directives decides them without being scanned: presence and list
markers, what follows from the type unless it is asked for, and then what is asked for in
the order of the catalog, under each name with the arguments of the first directive.  On a
list, everything but the structural validators and those of the collection is asked of each
element.  Printed validators of the catalog are such a documentation, and a field that is no
list gets exactly them back from it. -/
theorem synthesize_written (d : Descriptor) (namer : String → String) :
    (∀ (lead : String) (items : List Directive.Item), '@' ∉ lead.toList →
      (∀ i ∈ items, i.WF) →
      synthesize { d with documentation := some (Directive.written lead items) }
          (namer d.type)
        = (unasked d (namer d.type) items ++ Directive.asked items).map (onEach d.isList)) ∧
    (∀ as : List Decorator, (as.map (·.name)).Sublist Catalog.names →
      (∀ a ∈ as, Directive.Printable a) → d.isList = false →
      synthesize { d with documentation := some (Decorator.linesText as) } (namer d.type)
        = unasked d (namer d.type) (as.map Directive.Item.ofDecorator) ++ as) := by
  have hmain : ∀ (lead : String) (items : List Directive.Item), '@' ∉ lead.toList →
      (∀ i ∈ items, i.WF) →
      synthesize { d with documentation := some (Directive.written lead items) }
          (namer d.type)
        = (unasked d (namer d.type) items ++ Directive.asked items).map (onEach d.isList) := by
    intro lead items hlead hitems
    have hnames : ((Directive.asked items).map (onEach d.isList)).map (·.name)
        = (Directive.asked items).map (·.name) := by
      simp
    rw [synthesize_eq, requested_written hlead hitems, hnames, List.map_append,
      ← derived_filter]
    rfl
  refine ⟨hmain, fun as hsub has hlist => ?_⟩
  have hplain : ∀ bs : List Decorator, bs.map (onEach d.isList) = bs := by
    intro bs
    refine (List.map_congr_left fun b _ => ?_).trans (List.map_id bs)
    simp [onEach, hlist]
  rw [Directive.linesText_eq_written, hmain "" _ (by simp), hplain,
    Directive.asked_ofDecorator has hsub]
  intro i hi
  obtain ⟨a, ha, rfl⟩ := List.mem_map.mp hi
  exact (has a ha).wf

/-! ### A documented list -/

/-- A required list of strings. -/
def tagsField : Descriptor where
  name := "tags"
  kind := .scalar
  type := "String"
  isRequired := true
  isList := true
  relationName := none
  documentation := none

/-- A name twice, a name of no validator, empty arguments and none. -/
def tagsItems : List Directive.Item :=
  [⟨"MinLength", some "2", " or more, "⟩, ⟨"IsString", some "", " "⟩, ⟨"Custom", none, ": "⟩,
    ⟨"MinLength", some "9", "\n"⟩, ⟨"ArrayNotEmpty", none, ""⟩]

def tagsPrinted : List Decorator :=
  [⟨"Length", some "2, 20"⟩, .bare "ArrayUnique"]

theorem synthesize_written_tags :
    ('@' ∉ "Tags: ".toList ∧ (∀ i ∈ tagsItems, i.WF) ∧
      synthesize { tagsField with documentation := some (Directive.written "Tags: " tagsItems) }
          "String"
        = [.bare "IsNotEmpty", .bare "IsArray", ⟨"IsString", some "\x7b each: true \x7d"⟩,
            ⟨"MinLength", some "2, \x7b each: true \x7d"⟩, .bare "ArrayNotEmpty"]) ∧
    ((tagsPrinted.map (·.name)).Sublist Catalog.names ∧
      (∀ a ∈ tagsPrinted, Directive.Printable a) ∧
      synthesize { tagsField with
          isList := false, documentation := some (Decorator.linesText tagsPrinted) } "String"
        = [.bare "IsNotEmpty", .bare "IsString"] ++ tagsPrinted) := by
  have hlead : '@' ∉ "Tags: ".toList := by decide
  have hitems : ∀ i ∈ tagsItems, i.WF := by decide +kernel
  have hsub : (tagsPrinted.map (·.name)).Sublist Catalog.names := by decide +kernel
  have hprint : ∀ a ∈ tagsPrinted, Directive.Printable a := by decide +kernel
  refine ⟨⟨hlead, hitems, ?_⟩, hsub, hprint, ?_⟩
  · refine ((synthesize_written tagsField id).1 _ _ hlead hitems).trans ?_
    decide +kernel
  · refine ((synthesize_written { tagsField with isList := false } id).2 _ hsub hprint rfl).trans
      ?_
    decide +kernel

end Validators

end DtoForge
