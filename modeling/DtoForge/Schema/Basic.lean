/-
Data models.

A data model holds models, the composite types that they embed, and enums.  Models and
composite types look alike; what sets them apart is the list they stand in.
-/
import DtoForge.Json.Basic

namespace DtoForge

/-- How the type of a field is found. -/
inductive FieldKind
  | scalar
  /-- Another model, or a composite type. -/
  | object
  | enumeration
  | unsupported
  deriving DecidableEq, Repr

/-- A field of a model or composite type. -/
structure Field where
  name : String
  kind : FieldKind
  /-- The name of the scalar, enum, model or composite type. -/
  type : String
  isRequired : Bool := false
  isList : Bool := false
  isId : Bool := false
  isUnique : Bool := false
  /-- Set on scalars that hold a foreign key. -/
  isReadOnly : Bool := false
  isUpdatedAt : Bool := false
  hasDefaultValue : Bool := false
  /-- A literal, a list, or a call of a database function. -/
  defaultValue : Option Json := none
  /-- Present on relations only. -/
  relationName : Option String := none
  /-- The fields of the same model that hold the foreign key. -/
  relationFromFields : List String := []
  documentation : Option String := none
  deriving Repr

/-- A model or composite type. -/
structure Model where
  name : String
  dbName : Option String := none
  fields : List Field := []
  documentation : Option String := none
  deriving Repr

/-- A value of an enum. -/
structure EnumValue where
  name : String
  dbName : Option String := none
  deriving DecidableEq, Repr

/-- An enum. -/
structure EnumDecl where
  name : String
  values : List EnumValue := []
  deriving DecidableEq, Repr

/-- A data model. -/
structure Datamodel where
  models : List Model := []
  enums : List EnumDecl := []
  types : List Model := []
  deriving Repr

/-! ### Looking up names -/

/-- The first field with a name. -/
def Model.field? (m : Model) (name : String) : Option Field :=
  m.fields.find? (·.name == name)

namespace Datamodel

/-- The first model with a name. -/
def model? (dm : Datamodel) (name : String) : Option Model :=
  dm.models.find? (·.name == name)

/-- The first composite type with a name. -/
def type? (dm : Datamodel) (name : String) : Option Model :=
  dm.types.find? (·.name == name)

/-- What a name refers to: a model, or a composite type if there is no such model. -/
def related? (dm : Datamodel) (name : String) : Option Model :=
  (dm.model? name).or (dm.type? name)

end Datamodel

/-! ### Classes of fields -/

namespace Field

/-- An object that stands for a relation to another model. -/
def isRelation (f : Field) : Bool :=
  f.kind == .object && f.relationName.isSome

/-- An object that embeds a composite type. -/
def isComposite (f : Field) : Bool :=
  f.kind == .object && f.relationName.isNone

/-- An id that the database fills in. -/
def isIdWithDefault (f : Field) : Bool :=
  f.isId && f.hasDefaultValue

/-- A required field that the database fills in. -/
def isRequiredWithDefault (f : Field) : Bool :=
  f.isRequired && f.hasDefaultValue

end Field

/-- The names of the fields that hold the foreign key of some relation. -/
def Model.foreignKeys (m : Model) : List String :=
  (m.fields.filter Field.isRelation).flatMap Field.relationFromFields

end DtoForge
