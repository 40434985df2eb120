/-
Files name only classes that they have.

A class that a file speaks of is its own, one of its helpers, or imported from the file
that declares it, and nothing else is imported from another file of the output.  One step
needs names to behave: where two outputs share a file, the import is left out, and then the
class has to be the one that is there already.
-/
import DtoForge.Proofs.Dto.Import

namespace DtoForge

namespace Dto

/-- The classes that a file has: its own, its helpers, and what it imports from other
files. -/
def has (d : Dto) (name : String) : Prop :=
  name = d.className ∨ name ∈ d.helpers.map (·.name) ∨
    ∃ i ∈ d.imports, i.isRelative = true ∧ name ∈ i.names

namespace IsOf

variable {s : Settings} {dm : Datamodel} {m : Model} {kind : DtoKind} {d : Dto}

/-- What a file speaks of is a helper or an output that it refers to. -/
theorem of_mem_mentions (h : IsOf s dm m kind d) :
    ∀ c ∈ d.mentions, (∃ t ∈ m.targets kind, c = t.className s) ∨
      c ∈ d.helpers.map (·.name) := by
  obtain ⟨parts, rfl, hshape, href, -⟩ := h
  rw [← href]
  -- Each part answers for itself; only the place changes.
  have hplace : ∀ c, ∀ p ∈ parts,
      ((∃ t ∈ p.references, c = t.className s) ∨ ∃ helper ∈ p.helper?, c = helper.name) →
        (∃ t ∈ parts.flatMap (·.references), c = t.className s) ∨
          c ∈ (parts.filterMap (·.helper?)).map (·.name) := by
    rintro c p hp (⟨t, ht, hc⟩ | ⟨helper, hhelper, hc⟩)
    · exact Or.inl ⟨t, List.mem_flatMap.mpr ⟨p, hp, ht⟩, hc⟩
    · exact Or.inr (List.mem_map.mpr ⟨helper, List.mem_filterMap.mpr ⟨p, hp, hhelper⟩, hc.symm⟩)
  intro c hc
  rcases List.mem_append.mp hc with hc | hc
  · obtain ⟨x, hx, hclass⟩ := List.mem_filterMap.mp hc
    obtain ⟨p, hp, hxp⟩ := mem_allMembers_ofParts.mp hx
    exact hplace c p hp ((hshape p hp).class_of_member x hxp c hclass)
  · obtain ⟨p, hp, hcp⟩ := mem_extraModels_ofParts.mp hc
    exact hplace c p hp ((hshape p hp).class_of_extraModels c hcp)

theorem className_mem_mentions (h : IsOf s dm m kind d) :
    ∀ t ∈ m.targets kind, t.className s ∈ d.mentions := by
  obtain ⟨parts, rfl, hshape, href, -⟩ := h
  rw [← href]
  intro t ht
  obtain ⟨p, hp, htp⟩ := List.mem_flatMap.mp ht
  obtain ⟨x, hx, hclass⟩ := (hshape p hp).exists_member t htp
  exact List.mem_append_left _
    (List.mem_filterMap.mpr ⟨x, mem_allMembers_ofParts.mpr ⟨p, hp, hx⟩, hclass⟩)

/-- An output that shares the file of another of its family has its class, too. -/
theorem has_className {names : List String} (h : IsOf s dm m kind d)
    (hagree : NamesAgree names) (hm : m.name ∈ names) (hnames : ∀ n ∈ dm.names, n ∈ names) :
    ∀ t ∈ m.targets kind, d.has (t.className s) := by
  intro t ht
  by_cases hpath : t.path s = d.path
  · rw [h.path_eq] at hpath
    have hname := hnames _ (Datamodel.declares_iff.mp (h.declares t ht))
    have hfamily := Model.isInput_of_mem_targets ht
    refine Or.inl ?_
    rw [h.className_eq]
    exact Target.className_eq_of_path_eq hagree hname hm hfamily hpath
  · obtain ⟨i, hi, hrelative, -, hname⟩ := h.imports_iff.mpr ⟨t, ht, hpath, rfl, rfl⟩
    exact Or.inr (Or.inr ⟨i, hi, hrelative, hname⟩)

end IsOf

/-! ### Closed files -/

/-- A file whose references are closed, among the outputs of a data model. -/
structure Closed (s : Settings) (dm : Datamodel) (d : Dto) : Prop where
  /-- Whatever the file speaks of, it has. -/
  has : ∀ c ∈ d.mentions, d.has c
  /-- Whatever it imports from other files, it speaks of. -/
  used : ∀ i ∈ d.imports, i.isRelative = true → ∀ c ∈ i.names, c ∈ d.mentions
  /-- And that is the class of an output of some model or composite type, imported from
  where the output lies. -/
  found : ∀ i ∈ d.imports, i.isRelative = true → ∀ c ∈ i.names,
    ∃ r ∈ dm.models ++ dm.types, ∃ kind : DtoKind,
      ModulePath.resolve d.directory i.source
          = some (s.directory kind r.name ++ [ModulePath.stem (kind.fileName r.name)]) ∧
        c = s.className kind r.name

/-- The outputs that a file imports are declared, and where its specifiers lead. -/
theorem IsOf.found {s : Settings} {dm : Datamodel} {m : Model} {kind : DtoKind} {d : Dto}
    (h : IsOf s dm m kind d) {t : Target} (ht : t ∈ m.targets kind) :
    ∃ r ∈ dm.models ++ dm.types, ∃ k : DtoKind,
      ModulePath.resolve d.directory (t.specifier s d.directory)
          = some (s.directory k r.name ++ [ModulePath.stem (k.fileName r.name)]) ∧
        t.className s = s.className k r.name := by
  obtain ⟨r, hr, hname⟩ :=
    List.mem_map.mp (Datamodel.declares_iff.mp (h.declares t ht))
  refine ⟨r, hr, t.kind, ?_, ?_⟩
  · rw [Target.resolve_specifier, hname]
    rfl
  · rw [hname]
    rfl

/-- **Every file of a run is closed**, as long as names with one file base have one class
base. -/
theorem closed_of_mem_all {s : Settings} {dm : Datamodel} {models : List Model}
    {dtos : List Dto} {d : Dto} (hagree : NamesAgree (dm.names ++ models.map (·.name)))
    (hall : all s dm models = .ok dtos) (hd : d ∈ dtos) : Closed s dm d := by
  obtain ⟨⟨m, kind⟩, ho, h⟩ := exists_of_forall₂_right (matches_all hall) d hd
  have hm : m.name ∈ dm.names ++ models.map (·.name) := by
    rcases Datamodel.mem_of_mem_outputs ho with hm | hm
    · exact List.mem_append_left _ (List.mem_map_of_mem (List.mem_append_right _ hm))
    · exact List.mem_append_right _ (List.mem_map_of_mem hm)
  refine ⟨?_, ?_, ?_⟩
  · intro c hc
    rcases h.of_mem_mentions c hc with ⟨t, ht, rfl⟩ | hhelper
    · exact h.has_className hagree hm (fun n hn => List.mem_append_left _ hn) t ht
    · exact Or.inr (Or.inl hhelper)
  · intro i hi hrelative c hc
    obtain ⟨t, ht, -, -, rfl⟩ := h.imports_iff.mp ⟨i, hi, hrelative, rfl, hc⟩
    exact h.className_mem_mentions t ht
  · intro i hi hrelative c hc
    obtain ⟨t, ht, -, hsource, rfl⟩ := h.imports_iff.mp ⟨i, hi, hrelative, rfl, hc⟩
    rw [← hsource]
    exact h.found ht

/-- The blog has ten files, some of which import from each other, and all are closed. -/
theorem closed_blog :
    ∃ dtos, all {} .blog Datamodel.blog.models = .ok dtos ∧ dtos.length = 10 ∧
      (∃ d ∈ dtos, ∃ i ∈ d.imports, i.isRelative = true) ∧ ∀ d ∈ dtos, Closed {} .blog d := by
  have hok : (all {} .blog Datamodel.blog.models).toOption.any (fun dtos =>
      dtos.length == 10 && dtos.any fun d => d.imports.any (·.isRelative)) = true := by
    decide +kernel
  cases hall : all {} .blog Datamodel.blog.models with
  | error e => simp [hall, Except.toOption] at hok
  | ok dtos =>
      simp only [hall, Except.toOption, Option.any_some, Bool.and_eq_true, beq_iff_eq,
        List.any_eq_true] at hok
      refine ⟨dtos, rfl, hok.1, hok.2, fun d hd => ?_⟩
      exact closed_of_mem_all (namesAgree_of_ascii (by decide +kernel)) hall hd

end Dto

end DtoForge
