/-
Records as they are read.

The plain class of a model leaves its relations out.  The entity has them, typed as the
entities of the related models, and they may be absent because a query has to ask for
them.  Hidden fields are in neither.
-/
import DtoForge.Dto.RelationInput

namespace DtoForge.Record

/-- The plan for a field that is no relation, whose objects are of the class `className`. -/
def valuePlan (s : Settings) (f : Field) (className : String) : Plan where
  field := f
  descriptor := f.descriptor
  isOptional := false
  isNullable := !f.isRequired
  className
  namer := s.className .plain
  isInput := false

/-- The plan for a relation, whose records are of the class `className`. -/
def relationPlan (s : Settings) (f : Field) (className : String) : Plan where
  field := f
  descriptor := { f.descriptor with isRequired := false }
  isOptional := true
  isNullable := !f.isRequired && !f.isList
  className
  namer := s.className .plain
  isInput := false

/-- Takes in a field that is no relation.  The record is of the kind `kind`. -/
def addValue (s : Settings) (dm : Datamodel) (kind : DtoKind) (m : Model) (d : Draft)
    (f : Field) : Except Fault Draft :=
  if f.isComposite then do
    let related ← dm.resolve m f
    let className := s.className .plain related.name
    let d := d.require (s.directory kind m.name) (kind.fileName m.name)
      (s.directory .plain related.name) (DtoKind.plain.fileName related.name) className
    .ok (d.push (s.member (valuePlan s f className)))
  else .ok (d.push (s.member (valuePlan s f "")))

/-- Takes in a relation. -/
def addRelation (s : Settings) (dm : Datamodel) (m : Model) (d : Draft) (f : Field) :
    Except Fault Draft := do
  let related ← dm.resolve m f
  let className := s.className .entity related.name
  let d := d.require (s.directory .entity m.name) (DtoKind.entity.fileName m.name)
    (s.directory .entity related.name) (DtoKind.entity.fileName related.name) className
  .ok (d.push (s.member (relationPlan s f className)))

/-- Takes in a field of the plain class. -/
def addPlain (s : Settings) (dm : Datamodel) (m : Model) (d : Draft) (f : Field) :
    Except Fault Draft :=
  if f.has .entityHidden || f.isRelation then .ok d else addValue s dm .plain m d f

/-- Takes in a field of the entity. -/
def addEntity (s : Settings) (dm : Datamodel) (m : Model) (d : Draft) (f : Field) :
    Except Fault Draft :=
  if f.has .entityHidden then .ok d
  else if f.isRelation then addRelation s dm m d f
  else addValue s dm .entity m d f

end Record

/-- A record of a model without its relations. -/
def Dto.plain (s : Settings) (dm : Datamodel) (m : Model) : Except Fault Dto := do
  let d ← m.fields.foldlM (Record.addPlain s dm m) {}
  .ok (d.finish .plain (s.className .plain m.name) (s.directory .plain m.name)
    (DtoKind.plain.fileName m.name))

/-- A record of a model with its relations. -/
def Dto.entity (s : Settings) (dm : Datamodel) (m : Model) : Except Fault Dto := do
  let d ← m.fields.foldlM (Record.addEntity s dm m) {}
  .ok (d.finish .entity (s.className .entity m.name) (s.directory .entity m.name)
    (DtoKind.entity.fileName m.name))

end DtoForge
