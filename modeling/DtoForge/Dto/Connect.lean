/-
How an existing record is named.

A record is named by its id or another unique field.  Where there are several, one of them
is enough, so none is required; where there is none, the model has no such input.
-/
import DtoForge.Dto.Draft

namespace DtoForge

/-- Whether the field names a record. -/
def Field.isIdentifying (f : Field) : Bool :=
  f.kind != .object && (f.isId || f.isUnique)

namespace Connect

/-- The plan for an identifying field. -/
def plan (isOnly : Bool) (f : Field) : Plan where
  field := f
  descriptor := { f.descriptor with isRequired := isOnly }
  isOptional := !isOnly
  isNullable := false
  className := ""
  namer := id
  isInput := true

end Connect

/-- What names a record of a model, if something does. -/
def Dto.connect? (s : Settings) (m : Model) : Option Dto :=
  match m.fields.filter Field.isIdentifying with
  | [] => none
  | fields =>
    let members := fields.map fun f => s.member (Connect.plan (fields.length == 1) f)
    let d := members.foldl Draft.push {}
    some (d.finish .connect (s.className .connect m.name) (s.directory .connect m.name)
      (DtoKind.connect.fileName m.name))

end DtoForge
