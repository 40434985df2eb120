/-
Files put together from parts.

A file can be told without the way it is drafted.  Every field of a model contributes a part to
it: a member, the class of a relation input, the outputs of other models that these need.  The
file is the parts put together, and its imports follow from the finished classes, so there is
nothing in them that the classes do not call for.
-/
import DtoForge.Dto.Draft
import DtoForge.Proofs.Dto.Naming

namespace DtoForge

/-- What one field contributes to a file. -/
structure Part where
  member? : Option Member := none
  /-- The class of a relation input. -/
  helper? : Option ClassDecl := none
  /-- The outputs that the member and the helper refer to. -/
  references : List Target := []
  /-- Classes that the documented API mentions only through this file's class. -/
  extraModels : List String := []

/-- The members that a part brings, those of its helper included. -/
def Part.members (p : Part) : List Member :=
  p.member?.toList ++ p.helper?.toList.flatMap (·.members)

/-! ### Imports from packages -/

/-- The names of validators, each once. -/
def validatorNames (members : List Member) : List String :=
  (members.flatMap fun m => m.validators.map (·.name)).foldl Import.addName []

/-- What the documentation package has to provide. -/
def documentationNames (members : List Member) (extraModels : List String) : List String :=
  (if extraModels.isEmpty then [] else ["ApiExtraModels"])
    ++ (if members.any fun m => !m.isHidden && m.api.isSome then ["ApiProperty"] else [])
    ++ (if members.any (·.isHidden) then ["ApiHideProperty"] else [])

/-- The imports from packages of a file with the given members and extra models.  The
validator `Type` comes from a package of its own. -/
def packageImports (members : List Member) (extraModels : List String) : List Import :=
  let validators := validatorNames members
  importOf "@prisma/client" (clientNames members)
    ++ importOf "class-validator"
      ((validators.filter (· != "Type")).mergeSort fun a b => decide (a ≤ b))
    ++ importOf "class-transformer" (validators.filter (· == "Type"))
    ++ importOf "@nestjs/swagger" (documentationNames members extraModels)

/-! ### Imports from other generated files -/

/-- Adds the import of an output, unless it is in the same file. -/
def requireTarget (s : Settings) (self : Target) (imports : List Import) (t : Target) :
    List Import :=
  if self.sharesFile s t then imports
  else
    Import.require imports
      (ModulePath.specifier (self.directory s) (t.directory s) t.fileName) (t.className s)

/-- The imports of the outputs that a file refers to. -/
def localImports (s : Settings) (self : Target) (references : List Target) : List Import :=
  references.foldl (requireTarget s self) []

/-! ### Putting a file together -/

namespace Dto

/-- The file of an output from the parts of its fields. -/
def ofParts (s : Settings) (self : Target) (parts : List Part) : Dto :=
  let members := parts.filterMap (·.member?)
  let helpers := parts.filterMap (·.helper?)
  let extraModels := (parts.flatMap (·.extraModels)).foldl Import.addName []
  { kind := self.kind
    className := self.className s
    directory := self.directory s
    fileName := self.fileName
    members
    imports := Import.merge
      (packageImports (members ++ helpers.flatMap (·.members)) extraModels
        ++ localImports s self (parts.flatMap (·.references)))
    helpers
    extraModels }

/-- The members of all classes of the file. -/
def allMembers (d : Dto) : List Member :=
  d.members ++ d.helpers.flatMap (·.members)

theorem mem_allMembers_ofParts {s : Settings} {self : Target} {parts : List Part} {x : Member} :
    x ∈ (ofParts s self parts).allMembers ↔ ∃ p ∈ parts, x ∈ p.members := by
  simp only [allMembers, ofParts, Part.members, List.mem_append, List.mem_filterMap,
    List.mem_flatMap, Option.mem_toList]
  constructor
  · rintro (⟨p, hp, hx⟩ | ⟨c, ⟨p, hp, hc⟩, hx⟩)
    · exact ⟨p, hp, Or.inl hx⟩
    · exact ⟨p, hp, Or.inr ⟨c, hc, hx⟩⟩
  · rintro ⟨p, hp, hx | ⟨c, hc, hx⟩⟩
    · exact Or.inl ⟨p, hp, hx⟩
    · exact Or.inr ⟨c, ⟨p, hp, hc⟩, hx⟩

end Dto

end DtoForge
