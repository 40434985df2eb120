/-
Inputs of relations.

Where an input may touch a related record, it does so through a class of its own, with a
member that creates the record, one that connects it, or both.  With both there is a
choice, so neither is required.
-/
import DtoForge.Dto.Draft
import DtoForge.Schema.Decode

namespace DtoForge

/-! ### The two sides -/

/-- Which input a field is in. -/
inductive Side
  | onCreate
  | onUpdate
  deriving DecidableEq, Repr

namespace Side

/-- The kind of the input. -/
def kind : Side → DtoKind
  | onCreate => .create
  | onUpdate => .update

/-- The marker that lets the input create the related record. -/
def createMarker : Side → Marker
  | onCreate => .createOnCreate
  | onUpdate => .createOnUpdate

/-- The marker that lets the input connect the related record. -/
def connectMarker : Side → Marker
  | onCreate => .connectOnCreate
  | onUpdate => .connectOnUpdate

/-- The markers that let the input touch the related record. -/
def modifiers : Side → List Marker
  | onCreate => [.createOnCreate, .connectOnCreate]
  | onUpdate => [.createOnUpdate, .connectOnUpdate]

/-- The list has the markers that say what the input may do, and no others. -/
theorem modifiers_eq (side : Side) :
    side.modifiers = [side.createMarker, side.connectMarker] := by
  cases side <;> rfl

end Side

/-- Whether a field carries a marker that lets the input touch the related record. -/
def Field.isModifiable (f : Field) (side : Side) : Bool :=
  documentedOneOf f.documentation side.modifiers

/-! ### Resolving -/

/-- The model or composite type that a field of the model `m` refers to. -/
def Datamodel.resolve (dm : Datamodel) (m : Model) (f : Field) : Except Fault Model :=
  match dm.related? f.type with
  | some related => .ok related
  | none => .error (.unresolved m.name f.name f.type)

/-! ### The class of a relation input -/

namespace RelationInput

/-- What a relation input can do, and the kind of output that says how. -/
def actions (side : Side) (f : Field) : List (String × DtoKind) :=
  (if f.has side.createMarker then [("create", .create)] else [])
    ++ (if f.has side.connectMarker then [("connect", .connect)] else [])

/-- The name of the class, for the relation `f` of the model `m`. -/
def className (s : Settings) (side : Side) (m : Model) (f : Field) : String :=
  s.className side.kind (classBase m.name ++ classBase f.name ++ "RelationInput")

/-- The plan of a member of the class: its name, and the class of its objects. -/
def plan (f : Field) (isOnly : Bool) (name className : String) : Plan where
  field := f
  descriptor :=
    { name, kind := .object, type := className, isRequired := isOnly, isList := f.isList
      relationName := none, documentation := none }
  isOptional := !isOnly
  isNullable := false
  className
  namer := id
  isInput := true

/-- Takes in the class of one action, which the documented API mentions, and puts the name
of the action and the class to those before. -/
def reach (s : Settings) (dm : Datamodel) (side : Side) (m : Model) (f : Field)
    (before : Draft × List (String × String)) (action : String × DtoKind) :
    Except Fault (Draft × List (String × String)) := do
  let related ← dm.resolve m f
  let className := s.className action.2 related.name
  let d := before.1.require (s.directory side.kind m.name) (side.kind.fileName m.name)
    (s.directory action.2 related.name) (action.2.fileName related.name) className
  .ok (d.mention className, before.2 ++ [(action.1, className)])

/-- Takes in the class of a relation input, and gives its name. -/
def generate (s : Settings) (dm : Datamodel) (side : Side) (m : Model) (d : Draft) (f : Field) :
    Except Fault (Draft × String) := do
  let (d, classes) ← (actions side f).foldlM (reach s dm side m f) (d, [])
  if classes.isEmpty then .error (.emptyRelationInput m.name f.name)
  else
    let name := className s side m f
    let members := classes.map fun c => s.member (plan f (classes.length == 1) c.1 c.2)
    let d := (members.foldl Draft.note d).addHelper
      { name, members, isExported := s.exportRelationInputs, extraModels := [] }
    .ok (d.mention name, name)

end RelationInput

end DtoForge
