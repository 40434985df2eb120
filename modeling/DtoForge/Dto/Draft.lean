/-
Files in the making.

A file is drafted while the fields of a model are gone through.  The draft takes in members,
helpers and imports one at a time.  What the decorators of its members need from packages it
notes down on the side as the members come in, those of a helper's class apart from the helper,
and what is noted is all that the finished file imports for them.
-/
import DtoForge.Code.ModulePath
import DtoForge.Dto.Basic
import DtoForge.Dto.Member

namespace DtoForge

/-! ### The client package -/

/-- The names of enums among types, each once. -/
def enumNames (members : List Member) : List String :=
  (members.filterMap (·.type.enumName?)).foldl Import.addName []

/-- What the client package has to provide. -/
def clientNames (members : List Member) : List String :=
  (if members.any (·.type.inPrisma) then ["Prisma"] else []) ++ enumNames members

/-- A statement, if there is something to import. -/
def importOf (source : String) (names : List String) : List Import :=
  if names.isEmpty then [] else [⟨source, names⟩]

/-! ### Drafts -/

/-- A file that is not finished yet. -/
structure Draft where
  members : List Member := []
  /-- The imports from other generated files. -/
  imports : List Import := []
  helpers : List ClassDecl := []
  extraModels : List String := []
  /-- The validators noted down, each once. -/
  validatorNames : List String := []
  /-- Whether a member has been noted down that the documented API shows. -/
  hasShown : Bool := false
  /-- Whether one has been noted down that is hidden from it. -/
  hasHidden : Bool := false

namespace Draft

/-! ### Taking in -/

/-- Notes down what a member wears. -/
def note (d : Draft) (x : Member) : Draft :=
  { d with
    validatorNames := (x.validators.map (·.name)).foldl Import.addName d.validatorNames
    hasShown := d.hasShown || (!x.isHidden && x.api.isSome)
    hasHidden := d.hasHidden || x.isHidden }

/-- Takes in a member. -/
def push (d : Draft) (x : Member) : Draft :=
  let d := d.note x
  { d with members := d.members ++ [x] }

/-- Takes in a helper.  Its members are not noted down. -/
def addHelper (d : Draft) (c : ClassDecl) : Draft :=
  { d with helpers := d.helpers ++ [c] }

/-- Takes in a class for the documented API, unless it is there already. -/
def mention (d : Draft) (className : String) : Draft :=
  { d with extraModels := Import.addName d.extraModels className }

/-- Imports a class from the file `target` in the directory `there`, unless that is the file
`file` in the directory `here`, which is the one that is drafted. -/
def require (d : Draft) (here : List String) (file : String) (there : List String)
    (target className : String) : Draft :=
  if here = there ∧ file = target then d
  else
    { d with
      imports := Import.require d.imports (ModulePath.specifier here there target) className }

/-! ### Finishing -/

/-- The members of all classes of the file. -/
def allMembers (d : Draft) : List Member :=
  d.members ++ d.helpers.flatMap (·.members)

/-- The imports of validators.  `Type` comes from a package of its own. -/
def validatorImports (d : Draft) : List Import :=
  if d.validatorNames.isEmpty then []
  else
    ⟨"class-validator",
        (d.validatorNames.filter (· != "Type")).mergeSort fun a b => decide (a ≤ b)⟩
      :: if d.validatorNames.contains "Type" then [⟨"class-transformer", ["Type"]⟩] else []

/-- What the documentation package has to provide. -/
def documentationNames (d : Draft) : List String :=
  (if d.extraModels.isEmpty then [] else ["ApiExtraModels"])
    ++ (if d.hasShown then ["ApiProperty"] else [])
    ++ (if d.hasHidden then ["ApiHideProperty"] else [])

/-- The finished file. -/
def finish (d : Draft) (kind : DtoKind) (className : String) (directory : List String)
    (fileName : String) : Dto where
  kind
  className
  directory
  fileName
  members := d.members
  imports := Import.merge
    (importOf "@prisma/client" (clientNames d.allMembers)
      ++ d.validatorImports
      ++ importOf "@nestjs/swagger" d.documentationNames
      ++ d.imports)
  helpers := d.helpers
  extraModels := d.extraModels

end Draft

end DtoForge
