/-
Output that should have no decorators.

An interface wears nothing, and output without dependencies should not either.  No member of
such output is validated or documented.  One decorator is left.  A relation input puts its
classes among those that the documented API mentions through the class of the file, and the
settings are not asked: the class of the file wears the decorator for them, and a file imports
it even where an interface cannot wear it.

So a run is free of decorators exactly if no model in it has a relation input.
-/
import DtoForge.Proofs.Dto.Package

namespace DtoForge

/-! ### Members without decorators -/

/-- A member that is neither validated nor documented. -/
structure Member.Bare (x : Member) : Prop where
  validators : x.validators = []
  api : x.api = none
  isHidden : x.isHidden = false

namespace Settings

variable {s : Settings}

theorem bare_member (p : Plan) (hvalidates : s.validates = false)
    (hdocuments : s.documents = false) : (s.member p).Bare :=
  ⟨by simp [member, hvalidates], by simp [member, hdocuments], by simp [member, hdocuments]⟩

theorem validates_eq_false (hbare : s.noDependencies = true ∨ s.outputType = .interfaces)
    (hcheck : s.checkOptions = .ok ()) : s.validates = false := by
  unfold checkOptions at hcheck
  unfold validates
  rcases hbare with hdependencies | hout
  · cases hvalidation : s.classValidation with
    | false => rfl
    | true =>
        -- With validators asked for, either test refuses.
        cases hout : s.outputType <;> simp [hvalidation, hdependencies, hout] at hcheck
  · rw [hout]
    exact Bool.and_false _

theorem documents_eq_false (hbare : s.noDependencies = true ∨ s.outputType = .interfaces) :
    s.documents = false := by
  unfold documents
  rcases hbare with hdependencies | hout
  · rw [hdependencies]
    rfl
  · rw [hout]
    exact Bool.and_false _

end Settings

/-! ### Files without decorators -/

namespace Dto

/-- A file whose only decorator, if it has one, is that for the classes of its relation
inputs. -/
structure Bare (out : OutputType) (d : Dto) : Prop where
  validator : d.importedFrom "class-validator" = []
  transformer : d.importedFrom "class-transformer" = []
  /-- The decorator is imported wherever there are relation inputs. -/
  swagger : d.importedFrom "@nestjs/swagger"
    = if d.helpers.isEmpty then [] else ["ApiExtraModels"]
  /-- And classes wear it. -/
  worn : ∀ n, n ∈ (d.worn out).map (·.name) ↔
    (out = .classes ∧ d.helpers ≠ []) ∧ n = "ApiExtraModels"

/-- The packages of decorators. -/
def decoratorPackages : List String :=
  ["class-validator", "class-transformer", "@nestjs/swagger"]

/-- A file that imports nothing from a package of decorators and does not speak of classes for
the documented API. -/
structure Undecorated (out : OutputType) (d : Dto) : Prop where
  imports : ∀ i ∈ d.imports, i.source ∉ decoratorPackages
  extraModels : ∀ a ∈ d.worn out, a.name ≠ "ApiExtraModels"

section

variable {s : Settings} {dm : Datamodel} {m : Model} {kind : DtoKind} {d : Dto}
  {out : OutputType}

theorem worn_interfaces : d.worn .interfaces = [] := by
  simp [worn, ClassDecl.decorators, Member.decorators]

theorem validatorNames_of_bare {members : List Member} (h : ∀ x ∈ members, x.Bare) :
    validatorNames members = [] := by
  refine List.eq_nil_iff_forall_not_mem.mpr fun n hn => ?_
  obtain ⟨x, hx, hn⟩ := mem_validatorNames.mp hn
  simp [(h x hx).validators] at hn

theorem documentationNames_of_bare {members : List Member} {extraModels : List String}
    (h : ∀ x ∈ members, x.Bare) :
    documentationNames members extraModels
      = if extraModels.isEmpty then [] else ["ApiExtraModels"] := by
  have hapi : (members.any fun x => !x.isHidden && x.api.isSome) = false :=
    List.any_eq_false.mpr fun x hx => by simp [(h x hx).api]
  have hhidden : (members.any fun x => x.isHidden) = false :=
    List.any_eq_false.mpr fun x hx => by simp [(h x hx).isHidden]
  simp [documentationNames, hapi, hhidden]

theorem IsOf.bare (h : IsOf s dm m kind d) (hmembers : ∀ x ∈ d.allMembers, x.Bare) :
    d.Bare out := by
  have hextra := h.extraModels_eq_nil_iff
  have hhelpers := h.helper_extraModels
  obtain ⟨parts, rfl, -⟩ := h
  refine ⟨?_, ?_, ?_, ?_⟩
  · rw [importedFrom_validator, validatorNames_of_bare hmembers]
    exact List.mergeSort_nil
  · rw [importedFrom_transformer, validatorNames_of_bare hmembers]
    rfl
  · rw [importedFrom_swagger, documentationNames_of_bare hmembers]
    simp only [List.isEmpty_iff, hextra]
  · intro n
    cases out with
    | interfaces => simp [worn_interfaces]
    | classes =>
        rw [mem_names_worn hhelpers, ne_eq, hextra]
        constructor
        · rintro (hworn | ⟨x, hx, hn⟩)
          · exact ⟨⟨rfl, hworn.1⟩, hworn.2⟩
          · simp [(hmembers x hx).validators, (hmembers x hx).api] at hn
        · rintro ⟨⟨-, hne⟩, rfl⟩
          exact Or.inl ⟨hne, rfl⟩

/-- No import of a file is empty. -/
theorem names_ne_nil_of_ofParts {self : Target} {parts : List Part} {i : Import}
    (hi : i ∈ (ofParts s self parts).imports) : i.names ≠ [] := by
  rw [imports_ofParts] at hi
  rcases List.mem_append.mp hi with hi | hi
  · exact names_packageImports hi
  · exact (forall_merge_localImports i hi).2

/-- A bare file is free of decorators exactly if it has no relation input. -/
theorem IsOf.undecorated_iff (h : IsOf s dm m kind d) (hbare : d.Bare out) :
    d.Undecorated out ↔ d.helpers = [] := by
  constructor
  · intro hun
    have hnone : d.importedFrom "@nestjs/swagger" = [] := by
      have hfilter : d.imports.filter (·.source == "@nestjs/swagger") = [] :=
        List.filter_eq_nil_iff.mpr fun i hi hsource =>
          hun.imports i hi (beq_iff_eq.mp hsource ▸ by decide)
      rw [importedFrom, hfilter]
      rfl
    rw [hbare.swagger] at hnone
    by_contra hne
    simp [hne] at hnone
  · intro hhelpers
    have himported : ∀ package ∈ decoratorPackages, d.importedFrom package = [] := by
      intro package hpackage
      simp only [decoratorPackages, List.mem_cons, List.not_mem_nil, or_false] at hpackage
      rcases hpackage with rfl | rfl | rfl
      · exact hbare.validator
      · exact hbare.transformer
      · rw [hbare.swagger, hhelpers]
        rfl
    refine ⟨?_, ?_⟩
    · intro i hi hpackage
      obtain ⟨parts, rfl, -⟩ := h
      obtain ⟨n, hn⟩ := List.exists_mem_of_ne_nil _ (names_ne_nil_of_ofParts hi)
      have hmem : n ∈ (ofParts s ⟨kind, m.name⟩ parts).importedFrom i.source :=
        List.mem_flatMap.mpr ⟨i, List.mem_filter.mpr ⟨hi, beq_self_eq_true _⟩, hn⟩
      rw [himported _ hpackage] at hmem
      exact absurd hmem (by simp)
    · intro a ha hname
      exact ((hbare.worn a.name).mp (List.mem_map_of_mem ha)).1.2 hhelpers

end

end Dto

/-! ### Relation inputs -/

/-- Whether an input of the model touches a related record. -/
def Model.hasRelationInput (m : Model) : Bool :=
  [Side.onCreate, Side.onUpdate].any fun side =>
    m.fields.any fun f => side.isOpen m f && f.isRelation

theorem Model.hasRelationInput_iff {m : Model} :
    m.hasRelationInput = true ↔
      ∃ side : Side, ∃ f ∈ m.fields, side.isOpen m f = true ∧ f.isRelation = true := by
  simp only [hasRelationInput, List.any_eq_true, Bool.and_eq_true]
  constructor
  · rintro ⟨side, -, h⟩
    exact ⟨side, h⟩
  · rintro ⟨side, h⟩
    exact ⟨side, by cases side <;> simp, h⟩

namespace Dto

variable {s : Settings} {dm : Datamodel} {m : Model} {d : Dto}

theorem Holds.hasRelationInput (h : d.Holds s m) (hne : d.helpers ≠ []) :
    m.hasRelationInput = true := by
  obtain ⟨c, hc⟩ := List.exists_mem_of_ne_nil _ hne
  rw [h.helpers] at hc
  obtain ⟨f, hf, hcf⟩ := List.mem_filterMap.mp hc
  obtain ⟨side, -, hside⟩ := Field.helper?_eq_some_iff.mp hcf
  exact Model.hasRelationInput_iff.mpr ⟨side, f, hf, (Input.helper?_eq_some_iff.mp hside).1⟩

theorem Holds.helpers_ne_nil {side : Side} {f : Field} (h : d.Holds s m)
    (hkind : d.kind = side.kind) (hf : f ∈ m.fields)
    (hopen : side.isOpen m f = true ∧ f.isRelation = true) : d.helpers ≠ [] := by
  have hside : Input.helper? s side m f = some (RelationInput.helper s side m f) :=
    Input.helper?_eq_some_iff.mpr ⟨hopen, rfl⟩
  have hhelper := Field.helper?_eq_some_iff.mpr ⟨side, hkind.symm, hside⟩
  rw [h.helpers]
  exact List.ne_nil_of_mem (List.mem_filterMap.mpr ⟨f, hf, hhelper⟩)

/-- No file of a run has helpers exactly if no model of it has a relation input. -/
theorem helpers_eq_nil_iff {models : List Model} {dtos : List Dto}
    (hall : all s dm models = .ok dtos) :
    (∀ d ∈ dtos, d.helpers = []) ↔
      ∀ m ∈ dm.types ++ models, m.isIgnored = false → m.hasRelationInput = false := by
  constructor
  · intro hnone m hm hkept
    by_contra hhas
    obtain ⟨side, f, hf, hopen⟩ := Model.hasRelationInput_iff.mp (by simpa using hhas)
    have ho : (m, side.kind) ∈ dm.outputs models := by
      refine Datamodel.mem_outputs_iff.mpr ⟨hkept, ?_⟩
      refine (List.mem_append.mp hm).imp (fun hm => ⟨hm, ?_⟩) (fun hm => ⟨hm, ?_⟩)
      · cases side <;> decide
      · exact Model.mem_kinds_of_ne_connect (by cases side <;> decide)
    obtain ⟨d, hd, h⟩ := exists_of_forall₂_left (assembles_all hall) _ ho
    exact h.holds.helpers_ne_nil h.isOf.kind_eq hf hopen (hnone d hd)
  · intro hnone d hd
    obtain ⟨⟨m, kind⟩, ho, h⟩ := exists_of_forall₂_right (assembles_all hall) d hd
    obtain ⟨hkept, hm⟩ := Datamodel.mem_outputs_iff.mp ho
    by_contra hne
    have hhas := h.holds.hasRelationInput hne
    rw [hnone m (List.mem_append.mpr (hm.imp And.left And.left)) hkept] at hhas
    exact absurd hhas (by simp)

end Dto

/-! ### A whole run -/

theorem checkOptions_of_generate {s : Settings} {dm : Datamodel} {files : List GeneratedFile}
    (h : generate s dm = .ok files) : s.checkOptions = .ok () := by
  obtain ⟨_, hcheck, -⟩ := bind_eq_ok_iff.mp h
  exact hcheck

/-- **Without dependencies and in interfaces, one decorator is left, and only for relation
inputs.**  A run is free of decorators exactly if none of its models has one. -/
theorem undecorated_iff_of_generate {s : Settings} {dm : Datamodel} {files : List GeneratedFile}
    (hbare : s.noDependencies = true ∨ s.outputType = .interfaces)
    (hfiles : generate s dm = .ok files) :
    ∃ dtos, Dto.all s dm (selectedModels s dm) = .ok dtos ∧
      files = dtos.map (Dto.file s)
        ++ (if s.reExport then (directories dtos).map (indexOf s dtos) else []) ∧
      (∀ d ∈ dtos, d.Bare s.outputType) ∧
      ((∀ d ∈ dtos, d.Undecorated s.outputType) ↔
        ∀ m ∈ dm.types ++ selectedModels s dm,
          m.isIgnored = false → m.hasRelationInput = false) := by
  obtain ⟨dtos, hall, heq⟩ := generate_eq_ok hfiles
  have hvalidates := Settings.validates_eq_false hbare (checkOptions_of_generate hfiles)
  have hdocuments := Settings.documents_eq_false hbare
  have hfile : ∀ d ∈ dtos, d.Bare s.outputType ∧ (d.Undecorated s.outputType ↔ d.helpers = []) := by
    intro d hd
    obtain ⟨_, -, h⟩ := exists_of_forall₂_right (Dto.matches_all hall) d hd
    have hmembers : ∀ x ∈ d.allMembers, x.Bare := by
      intro x hx
      obtain ⟨p, rfl⟩ := h.exists_plan x hx
      exact Settings.bare_member p hvalidates hdocuments
    exact ⟨h.bare hmembers, h.undecorated_iff (h.bare hmembers)⟩
  refine ⟨dtos, hall, heq, fun d hd => (hfile d hd).1, ?_⟩
  rw [← Dto.helpers_eq_nil_iff hall]
  exact forall₂_congr fun d hd => (hfile d hd).2

/-- Interfaces of roles: no model has a relation input, and the run is free of decorators. -/
theorem undecorated_roles :
    ∃ (files : List GeneratedFile) (dtos : List Dto),
      generate { outputType := .interfaces } Dto.roles = .ok files ∧
      files = dtos.map (Dto.file { outputType := .interfaces }) ∧
        ∀ d ∈ dtos, d.Undecorated .interfaces := by
  have hok : (generate { outputType := .interfaces } Dto.roles).toOption.any (fun _ => true)
      = true := by
    decide +kernel
  obtain ⟨files, hfiles, -⟩ := exists_ok_of_any hok
  obtain ⟨dtos, -, heq, -, hiff⟩ := undecorated_iff_of_generate (Or.inr rfl) hfiles
  refine ⟨files, dtos, hfiles, ?_, hiff.mpr (by decide +kernel)⟩
  rw [heq]
  exact List.append_nil _

/-- **A decorator can be left.**  The file that creates a user of the blog wears one without
dependencies, and imports it. -/
theorem decorated_blog :
    ¬ ∀ (s : Settings) (dm : Datamodel) (files : List GeneratedFile) (dtos : List Dto),
      s.noDependencies = true ∨ s.outputType = .interfaces → generate s dm = .ok files →
        Dto.all s dm (selectedModels s dm) = .ok dtos →
          ∀ d ∈ dtos, d.Undecorated s.outputType := by
  intro h
  have hok : (generate { noDependencies := true } .blog).toOption.any (fun _ => true) = true := by
    decide +kernel
  have hleft : (Dto.all { noDependencies := true } .blog
      (selectedModels { noDependencies := true } .blog)).toOption.any (fun dtos =>
        dtos.any fun d => (d.worn .classes).any (·.name == "ApiExtraModels")) = true := by
    decide +kernel
  obtain ⟨files, hfiles, -⟩ := exists_ok_of_any hok
  obtain ⟨dtos, hall, hworn⟩ := exists_ok_of_any hleft
  simp only [List.any_eq_true, beq_iff_eq] at hworn
  obtain ⟨d, hd, a, ha, hname⟩ := hworn
  exact (h _ _ files dtos (Or.inl rfl) hfiles hall d hd).extraModels a ha hname

end DtoForge
