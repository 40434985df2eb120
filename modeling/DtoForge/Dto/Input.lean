/-
Inputs: what creates and what updates a record.

A field is in an input unless it is read-only, a foreign key, a relation that the input
may not touch, or filled in by the database, and for each of these there is a marker
that lets it in.  The class of a relation input comes before the last of the tests, so it
may stand in the file even where the field does not.
-/
import DtoForge.Dto.RelationInput

namespace DtoForge

/-! ### Membership -/

/-- Whether a field holds a foreign key of its model. -/
def Model.isForeignKey (m : Model) (f : Field) : Bool :=
  m.foreignKeys.contains f.name

/-- Whether a field is a foreign key that inputs keep. -/
def Model.keepsKey (m : Model) (f : Field) : Bool :=
  f.has .includeId && m.isForeignKey f

/-- Whether inputs leave the field alone. -/
def Field.isClosed (f : Field) : Bool :=
  f.isReadOnly || f.has .readOnly

namespace Side

/-- The marker that keeps a field which the database fills in. -/
def optionalMarker : Side → Marker
  | onCreate => .createOptional
  | onUpdate => .updateOptional

/-- Whether the database fills the field in.  An update never changes an id. -/
def isManaged (side : Side) (f : Field) : Bool :=
  match side with
  | onCreate => f.isIdWithDefault || f.isUpdatedAt || f.isRequiredWithDefault
  | onUpdate => f.isId || f.isUpdatedAt || f.isRequiredWithDefault

/-- Whether the field is open to the input. -/
def isOpen (side : Side) (m : Model) (f : Field) : Bool :=
  (!f.isClosed || m.keepsKey f) && (!f.isRelation || f.isModifiable side)

/-- Whether a field that is open to the input is a member of it. -/
def isKept (side : Side) (m : Model) (f : Field) : Bool :=
  (!m.isForeignKey f || m.keepsKey f) && (f.has side.optionalMarker || !side.isManaged f)

/-- Whether the field has to be given.  An update takes what it is given.  A relation to
several records has its list inside the relation input and is never required. -/
def isRequired (side : Side) (f : Field) : Bool :=
  match side with
  | onUpdate => false
  | onCreate =>
    !f.has .createOptional &&
      (if f.isRelation then !f.isList && (f.isRequired || f.has .relationRequired)
      else f.isRequired)

/-- The output that a composite value of the input is of. -/
def compositeKind (side : Side) (f : Field) : DtoKind :=
  match side with
  | onCreate => .create
  | onUpdate => if f.has .fullUpdate then .create else .update

end Side

/-! ### Members -/

namespace Input

/-- What the validators take for the class of a field's objects, unless the field is a
relation. -/
def namer (s : Settings) (side : Side) (f : Field) (type : String) : String :=
  match side with
  | .onCreate => s.className .create type
  | .onUpdate => if f.has .fullUpdate then s.className .create type else s.className .update type

/-- The plan for a relation whose input is the class `className`. -/
def relationPlan (side : Side) (f : Field) (className : String) : Plan where
  field := f
  descriptor :=
    { f.descriptor with
      type := className, relationName := none, isList := false
      isRequired := side.isRequired f }
  isOptional := !side.isRequired f
  isNullable := false
  className
  namer := id
  isInput := true

/-- The plan for any other field, whose objects are of the class `className`. -/
def plainPlan (s : Settings) (side : Side) (f : Field) (className : String) : Plan where
  field := f
  descriptor := { f.descriptor with isRequired := side.isRequired f }
  isOptional := !side.isRequired f
  isNullable := !f.isRequired
  className
  namer := namer s side f
  isInput := true

/-- Takes in a relation: its input class, and the member if the field is kept. -/
def addRelation (s : Settings) (dm : Datamodel) (side : Side) (m : Model) (d : Draft)
    (f : Field) : Except Fault Draft := do
  let (d, className) ← RelationInput.generate s dm side m d f
  .ok (if side.isKept m f then d.push (s.member (relationPlan side f className)) else d)

/-- Takes in a composite value. -/
def addComposite (s : Settings) (dm : Datamodel) (side : Side) (m : Model) (d : Draft)
    (f : Field) : Except Fault Draft := do
  let related ← dm.resolve m f
  let kind := side.compositeKind f
  let className := s.className kind related.name
  let d := d.require (s.directory side.kind m.name) (side.kind.fileName m.name)
    (s.directory kind related.name) (kind.fileName related.name) className
  .ok (d.push (s.member (plainPlan s side f className)))

/-- Takes in a field, as far as it is in the input. -/
def add (s : Settings) (dm : Datamodel) (side : Side) (m : Model) (d : Draft) (f : Field) :
    Except Fault Draft :=
  if !side.isOpen m f then .ok d
  else if f.isRelation then addRelation s dm side m d f
  else if !side.isKept m f then .ok d
  else if f.isComposite then addComposite s dm side m d f
  else .ok (d.push (s.member (plainPlan s side f "")))

end Input

/-- What creates, or updates, a record of a model. -/
def Dto.input (s : Settings) (dm : Datamodel) (side : Side) (m : Model) : Except Fault Dto := do
  let d ← m.fields.foldlM (Input.add s dm side m) {}
  .ok (d.finish side.kind (s.className side.kind m.name) (s.directory side.kind m.name)
    (side.kind.fileName m.name))

end DtoForge
