/-
Imports from packages are exact.

What a file of classes wears is what it imports decorators for, and the client package
gives it its enums and the namespace if a type needs one.  The two sides are decided apart:
the printer asks each member and each class what it wears, and the imports were noted down
while the file was drafted and come to what all members call for.  They meet because a
hidden member is a documented one and a helper wears nothing of its own.
-/
import DtoForge.Proofs.Code.TypeExpr
import DtoForge.Proofs.Dto.Import

namespace DtoForge

namespace Dto

/-- The names that a file imports from a module. -/
def importedFrom (d : Dto) (source : String) : List String :=
  (d.imports.filter (·.source == source)).flatMap (·.names)

/-- What is worn in a file, by its classes and their members. -/
def worn (out : OutputType) (d : Dto) : List Decorator :=
  d.declarations.flatMap fun c => c.decorators out ++ c.members.flatMap (·.decorators out)

/-! ### What is worn -/

section

variable {d : Dto}

theorem mem_declarations_members {x : Member} :
    (∃ c ∈ d.declarations, x ∈ c.members) ↔ x ∈ d.allMembers := by
  simp only [declarations, allMembers, List.mem_append, List.mem_singleton, List.mem_flatMap]
  constructor
  · rintro ⟨c, hc | rfl, hx⟩
    · exact Or.inr ⟨c, hc, hx⟩
    · exact Or.inl hx
  · rintro (hx | ⟨c, hc, hx⟩)
    · exact ⟨_, Or.inr rfl, hx⟩
    · exact ⟨c, Or.inl hc, hx⟩

theorem mem_names_classDecorators {c : ClassDecl} {n : String} :
    n ∈ (c.decorators .classes).map (·.name) ↔ c.extraModels ≠ [] ∧ n = "ApiExtraModels" := by
  unfold ClassDecl.decorators
  cases c.extraModels <;> simp

theorem mem_names_memberDecorators {x : Member} {n : String} :
    n ∈ (x.decorators .classes).map (·.name) ↔
      (x.api.isSome = true ∧ n = if x.isHidden then "ApiHideProperty" else "ApiProperty") ∨
        n ∈ x.validators.map (·.name) := by
  have hname : ∀ properties,
      (ApiProperty.decorator properties x.isHidden).name
        = if x.isHidden then "ApiHideProperty" else "ApiProperty" := by
    intro properties
    unfold ApiProperty.decorator
    split
    · rfl
    · split <;> rfl
  simp only [Member.decorators, Member.apiDecorator?, List.map_append, List.mem_append]
  cases x.api with
  | none => simp
  | some properties => simp [hname]

theorem mem_names_worn (hhelpers : ∀ c ∈ d.helpers, c.extraModels = []) {n : String} :
    n ∈ (d.worn .classes).map (·.name) ↔
      (d.extraModels ≠ [] ∧ n = "ApiExtraModels") ∨
        ∃ x ∈ d.allMembers,
          (x.api.isSome = true ∧ n = if x.isHidden then "ApiHideProperty" else "ApiProperty") ∨
            n ∈ x.validators.map (·.name) := by
  have hclass : (∃ c ∈ d.declarations, n ∈ (c.decorators .classes).map (·.name)) ↔
      d.extraModels ≠ [] ∧ n = "ApiExtraModels" := by
    simp only [mem_names_classDecorators, declarations, List.mem_append, List.mem_singleton]
    constructor
    · rintro ⟨c, hc | rfl, hmodels, hn⟩
      · exact absurd (hhelpers c hc) hmodels
      · exact ⟨hmodels, hn⟩
    · rintro ⟨hmodels, hn⟩
      exact ⟨_, Or.inr rfl, hmodels, hn⟩
  rw [← hclass]
  simp only [← mem_names_memberDecorators, ← mem_declarations_members, worn, List.map_flatMap,
    List.mem_flatMap, List.map_append, List.mem_append]
  constructor
  · rintro ⟨c, hc, hn | ⟨x, hx, hn⟩⟩
    · exact Or.inl ⟨c, hc, hn⟩
    · exact Or.inr ⟨x, ⟨c, hc, hx⟩, hn⟩
  · rintro (⟨c, hc, hn⟩ | ⟨x, ⟨c, hc, hx⟩, hn⟩)
    · exact ⟨c, hc, Or.inl hn⟩
    · exact ⟨c, hc, Or.inr ⟨x, hx, hn⟩⟩

end

/-! ### What is imported -/

theorem mem_validatorNames {members : List Member} {n : String} :
    n ∈ validatorNames members ↔ ∃ x ∈ members, n ∈ x.validators.map (·.name) := by
  simp [validatorNames, Import.mem_foldl_addName]

theorem mem_enumNames {members : List Member} {n : String} :
    n ∈ enumNames members ↔ ∃ x ∈ members, x.type.enumName? = some n := by
  simp [enumNames, Import.mem_foldl_addName]

theorem mem_documentationNames {members : List Member} {extraModels : List String} {n : String} :
    n ∈ documentationNames members extraModels ↔
      (extraModels ≠ [] ∧ n = "ApiExtraModels") ∨
        (∃ x ∈ members, x.isHidden = false ∧ x.api.isSome = true) ∧ n = "ApiProperty" ∨
          (∃ x ∈ members, x.isHidden = true) ∧ n = "ApiHideProperty" := by
  simp only [documentationNames, List.mem_append, or_assoc]
  refine or_congr ?_ (or_congr ?_ ?_)
  · cases extraModels <;> simp
  · split <;> simp_all
  · split <;> simp_all

theorem importOf_filter (source package : String) (names : List String) :
    ((importOf source names).filter (·.source == package)).flatMap (·.names)
      = if source = package then names else [] := by
  unfold importOf
  by_cases hempty : names.isEmpty = true
  · rw [if_pos hempty]
    simp [List.isEmpty_iff.mp hempty]
  · rw [if_neg hempty]
    by_cases hsource : source = package <;> simp [hsource]

variable {s : Settings} {self : Target} {parts : List Part}

/-- What a file imports from a package has not been merged with anything. -/
theorem importedFrom_ofParts {package : String} (h : package ∈ packages) :
    (ofParts s self parts).importedFrom package
      = ((packageImports (ofParts s self parts).allMembers
          (ofParts s self parts).extraModels).filter (·.source == package)).flatMap
            (·.names) := by
  have hlocal : (Import.merge (localImports s self (parts.flatMap (·.references)))).filter
      (·.source == package) = [] := by
    refine List.filter_eq_nil_iff.mpr fun i hi hsource => ?_
    have hpackage : i.source ∈ packages := (beq_iff_eq.mp hsource) ▸ h
    exact absurd (forall_merge_localImports i hi).1
      (by simp [isRelative_of_mem_packages hpackage])
  rw [importedFrom, imports_ofParts, List.filter_append, hlocal, List.append_nil]

theorem importedFrom_client :
    (ofParts s self parts).importedFrom "@prisma/client"
      = clientNames (ofParts s self parts).allMembers := by
  rw [importedFrom_ofParts (by decide)]
  simp [packageImports, List.filter_append, List.flatMap_append, importOf_filter]

theorem importedFrom_validator :
    (ofParts s self parts).importedFrom "class-validator"
      = ((validatorNames (ofParts s self parts).allMembers).filter (· != "Type")).mergeSort
          fun a b => decide (a ≤ b) := by
  rw [importedFrom_ofParts (by decide)]
  simp [packageImports, List.filter_append, List.flatMap_append, importOf_filter]

theorem importedFrom_transformer :
    (ofParts s self parts).importedFrom "class-transformer"
      = (validatorNames (ofParts s self parts).allMembers).filter (· == "Type") := by
  rw [importedFrom_ofParts (by decide)]
  simp [packageImports, List.filter_append, List.flatMap_append, importOf_filter]

theorem importedFrom_swagger :
    (ofParts s self parts).importedFrom "@nestjs/swagger"
      = documentationNames (ofParts s self parts).allMembers
          (ofParts s self parts).extraModels := by
  rw [importedFrom_ofParts (by decide)]
  simp [packageImports, List.filter_append, List.flatMap_append, importOf_filter]

/-! ### Both sides -/

/-- A file that imports from packages exactly what it wears and what its types need. -/
structure PackagesExact (out : OutputType) (d : Dto) : Prop where
  /-- The three packages of decorators give what is worn. -/
  decorators : ∀ n, n ∈ d.importedFrom "class-validator" ∨
      n ∈ d.importedFrom "class-transformer" ∨ n ∈ d.importedFrom "@nestjs/swagger" ↔
    n ∈ (d.worn out).map (·.name)
  /-- `Type` comes from a package of its own. -/
  type : "Type" ∉ d.importedFrom "class-validator" ∧ "Type" ∉ d.importedFrom "@nestjs/swagger" ∧
    ∀ n ∈ d.importedFrom "class-transformer", n = "Type"
  /-- Validators are in order, and none is there twice. -/
  sorted : (d.importedFrom "class-validator").Pairwise (· < ·)
  /-- The client package gives the enums, and the namespace if a type is written with it
  that is not an enum or a class. -/
  client : ∀ n, n ∈ d.importedFrom "@prisma/client" ↔
    (∃ x ∈ d.allMembers, x.type.enumName? = some n) ∨
      n = "Prisma" ∧ ∃ x ∈ d.allMembers,
        x.type.enumName? = none ∧ x.type.className? = none ∧ x.type.printsInPrisma
  /-- It gives nothing twice, as long as no enum is called like the namespace. -/
  clientOnce : (∀ x ∈ d.allMembers, x.type.enumName? ≠ some "Prisma") →
    (d.importedFrom "@prisma/client").Nodup
  /-- No module is imported from twice. -/
  modules : (d.imports.map (·.source)).Nodup
  /-- No statement is empty. -/
  nonempty : ∀ i ∈ d.imports, i.names ≠ []

theorem names_packageImports {members : List Member} {extraModels : List String} {i : Import}
    (h : i ∈ packageImports members extraModels) : i.names ≠ [] := by
  have himport : ∀ {source : String} {names : List String},
      i ∈ importOf source names → i.names ≠ [] := by
    intro source names hi
    unfold importOf at hi
    split at hi
    · simp at hi
    · next hne =>
        rw [List.mem_singleton.mp hi]
        exact fun hnames => hne (List.isEmpty_iff.mpr hnames)
  simp only [packageImports, List.mem_append] at h
  rcases h with ((h | h) | h) | h <;> exact himport h

theorem nodup_clientNames {members : List Member}
    (h : ∀ x ∈ members, x.type.enumName? ≠ some "Prisma") : (clientNames members).Nodup := by
  have henums : (enumNames members).Nodup := Import.nodup_foldl_addName List.nodup_nil
  have hprisma : "Prisma" ∉ enumNames members := fun hmem => by
    obtain ⟨x, hx, hname⟩ := mem_enumNames.mp hmem
    exact h x hx hname
  unfold clientNames
  split
  · exact List.nodup_cons.mpr ⟨hprisma, henums⟩
  · exact henums

theorem mem_clientNames {members : List Member} {n : String} :
    n ∈ clientNames members ↔ (∃ x ∈ members, x.type.enumName? = some n) ∨
      n = "Prisma" ∧ ∃ x ∈ members,
        x.type.enumName? = none ∧ x.type.className? = none ∧ x.type.printsInPrisma := by
  simp only [clientNames, List.mem_append, mem_enumNames, ← TypeExpr.inPrisma_iff]
  rw [or_comm]
  refine or_congr Iff.rfl ?_
  split <;> simp_all

/-- Every validator is imported from one of two packages, and a documented member brings
the decorator that it wears. -/
theorem mem_decoratorNames {members : List Member} {extraModels : List String}
    (hhidden : ∀ x ∈ members, x.isHidden = true → x.api.isSome = true) {n : String} :
    (n ∈ validatorNames members ∨ n ∈ documentationNames members extraModels) ↔
      (extraModels ≠ [] ∧ n = "ApiExtraModels") ∨
        ∃ x ∈ members,
          (x.api.isSome = true ∧ n = if x.isHidden then "ApiHideProperty" else "ApiProperty") ∨
            n ∈ x.validators.map (·.name) := by
  rw [mem_validatorNames, mem_documentationNames]
  constructor
  · rintro (⟨x, hx, hn⟩ | hmodels | ⟨⟨x, hx, hshown, hapi⟩, rfl⟩ | ⟨⟨x, hx, hhide⟩, rfl⟩)
    · exact Or.inr ⟨x, hx, Or.inr hn⟩
    · exact Or.inl hmodels
    · exact Or.inr ⟨x, hx, Or.inl ⟨hapi, by simp [hshown]⟩⟩
    · exact Or.inr ⟨x, hx, Or.inl ⟨hhidden x hx hhide, by simp [hhide]⟩⟩
  · rintro (hmodels | ⟨x, hx, ⟨hapi, hn⟩ | hn⟩)
    · exact Or.inr (Or.inl hmodels)
    · cases hhide : x.isHidden with
      | true => exact Or.inr (Or.inr (Or.inr ⟨⟨x, hx, hhide⟩, by simpa [hhide] using hn⟩))
      | false => exact Or.inr (Or.inr (Or.inl ⟨⟨x, hx, hhide, hapi⟩, by simpa [hhide] using hn⟩))
    · exact Or.inl ⟨x, hx, hn⟩

theorem mem_importedFrom_validators {n : String} :
    (n ∈ (ofParts s self parts).importedFrom "class-validator" ∨
        n ∈ (ofParts s self parts).importedFrom "class-transformer") ↔
      n ∈ validatorNames (ofParts s self parts).allMembers := by
  rw [importedFrom_validator, importedFrom_transformer, List.mem_mergeSort, List.mem_filter,
    List.mem_filter]
  by_cases hn : n = "Type" <;> simp [hn]

/-- **The imports of a file of classes from packages are exact.** -/
theorem packagesExact_of_mem_all {s : Settings} {dm : Datamodel} {models : List Model}
    {dtos : List Dto} {d : Dto} (hout : s.outputType = .classes)
    (hall : all s dm models = .ok dtos) (hd : d ∈ dtos) : PackagesExact s.outputType d := by
  obtain ⟨⟨m, kind⟩, -, h⟩ := exists_of_forall₂_right (matches_all hall) d hd
  have hhidden : ∀ x ∈ d.allMembers, x.isHidden = true → x.api.isSome = true := by
    intro x hx hhide
    obtain ⟨plan, rfl⟩ := h.exists_plan x hx
    exact s.isSome_api_of_isHidden plan hhide
  have hhelpers := h.helper_extraModels
  have hlocal := h.names_ne_nil
  obtain ⟨parts, rfl, -⟩ := h
  refine ⟨?_, ?_, ?_, ?_, ?_, Import.nodup_sources_merge _, ?_⟩
  · intro n
    rw [← or_assoc, mem_importedFrom_validators, importedFrom_swagger, hout,
      mem_names_worn hhelpers]
    exact mem_decoratorNames hhidden
  · refine ⟨?_, ?_, ?_⟩
    · rw [importedFrom_validator, List.mem_mergeSort]
      simp
    · rw [importedFrom_swagger, mem_documentationNames]
      simp
    · rw [importedFrom_transformer]
      exact fun n hn => by simpa using (List.mem_filter.mp hn).2
  · rw [importedFrom_validator]
    exact Draft.pairwise_mergeSort ((Import.nodup_foldl_addName List.nodup_nil).filter _)
  · intro n
    rw [importedFrom_client]
    exact mem_clientNames
  · rw [importedFrom_client]
    exact nodup_clientNames
  · intro i hi
    cases hrelative : i.isRelative with
    | true => exact hlocal i hi hrelative
    | false =>
        rw [imports_ofParts] at hi
        rcases List.mem_append.mp hi with hi | hi
        · exact names_packageImports hi
        · exact absurd (forall_merge_localImports i hi).1 (by simp [hrelative])

/-- The blog with validators: its files wear some, and their imports are exact. -/
theorem packagesExact_blog :
    ∃ dtos, all { classValidation := true } .blog Datamodel.blog.models = .ok dtos ∧
      (∃ d ∈ dtos, "IsInt" ∈ (d.worn .classes).map (·.name)) ∧
        ∀ d ∈ dtos, PackagesExact .classes d := by
  have hok : (all { classValidation := true } .blog Datamodel.blog.models).toOption.any
      (fun dtos => dtos.any fun d => ((d.worn .classes).map (·.name)).contains "IsInt")
        = true := by
    decide +kernel
  cases hall : all { classValidation := true } .blog Datamodel.blog.models with
  | error e => simp [hall, Except.toOption] at hok
  | ok dtos =>
      simp only [hall, Except.toOption, Option.any_some, List.any_eq_true,
        List.contains_iff_mem] at hok
      exact ⟨dtos, rfl, hok, fun d hd => packagesExact_of_mem_all rfl hall hd⟩

/-- A user whose role is of an enum that is called as if it were in the namespace. -/
def roles : Datamodel where
  models := [
    { name := "User"
      fields := [{ name := "role", kind := .enumeration, type := "Prisma.Role" }] }]

/-- **The prefix alone does not bring the namespace.**  The name of an enum may begin with
it. -/
theorem prefix_without_namespace :
    ¬ ∀ (s : Settings) (dm : Datamodel) (models : List Model) (dtos : List Dto) (d : Dto),
      s.outputType = .classes → all s dm models = .ok dtos → d ∈ dtos →
        ∀ n, n ∈ d.importedFrom "@prisma/client" ↔
          (∃ x ∈ d.allMembers, x.type.enumName? = some n) ∨
            n = "Prisma" ∧ ∃ x ∈ d.allMembers, x.type.printsInPrisma := by
  intro h
  have hok : (all {} roles roles.models).toOption.any (fun dtos => dtos.any fun d =>
      !(d.importedFrom "@prisma/client").contains "Prisma"
        && d.allMembers.any fun x => decide x.type.printsInPrisma) = true := by
    decide +kernel
  cases hall : all {} roles roles.models with
  | error e => simp [hall, Except.toOption] at hok
  | ok dtos =>
      simp only [hall, Except.toOption, Option.any_some, List.any_eq_true, Bool.and_eq_true,
        Bool.not_eq_true', List.contains_eq_mem, decide_eq_false_iff_not,
        decide_eq_true_eq] at hok
      obtain ⟨d, hd, hnot, hprefix⟩ := hok
      exact hnot ((h {} roles roles.models dtos d rfl hall hd "Prisma").mpr
        (Or.inr ⟨rfl, hprefix⟩))

end Dto

end DtoForge
