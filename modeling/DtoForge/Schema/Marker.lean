/-
Markers in the documentation of a schema.

A model or field says in its documentation comment what should become of it.  A marker
counts wherever its text stands, glued to other text or not; none of the thirteen is a
part of another.
-/
import DtoForge.Schema.Basic
import DtoForge.Text.Search

namespace DtoForge

/-- What a documentation comment can ask for. -/
inductive Marker
  /-- Generate nothing for this model. -/
  | ignoreModel
  /-- Leave the field out of inputs. -/
  | readOnly
  /-- Leave the field out of what is read. -/
  | entityHidden
  /-- Hide the field from the documented API. -/
  | apiHidden
  /-- Keep the field in the create input, and let it be absent. -/
  | createOptional
  /-- Keep the field in the update input. -/
  | updateOptional
  /-- Require the relation in the create input. -/
  | relationRequired
  /-- Let a create input create the related record. -/
  | createOnCreate
  /-- Let a create input connect the related record. -/
  | connectOnCreate
  /-- Let an update input create the related record. -/
  | createOnUpdate
  /-- Let an update input connect the related record. -/
  | connectOnUpdate
  /-- Keep the foreign key in inputs. -/
  | includeId
  /-- Take the whole composite value in the update input. -/
  | fullUpdate
  deriving DecidableEq, Repr

namespace Marker

/-- The marker as it stands in documentation. -/
def text : Marker → String
  | ignoreModel => "@DtoIgnoreModel"
  | readOnly => "@DtoReadOnly"
  | entityHidden => "@DtoEntityHidden"
  | apiHidden => "@DtoApiHidden"
  | createOptional => "@DtoCreateOptional"
  | updateOptional => "@DtoUpdateOptional"
  | relationRequired => "@DtoRelationRequired"
  | createOnCreate => "@DtoRelationCanCreateOnCreate"
  | connectOnCreate => "@DtoRelationCanConnectOnCreate"
  | createOnUpdate => "@DtoRelationCanCreateOnUpdate"
  | connectOnUpdate => "@DtoRelationCanConnectOnUpdate"
  | includeId => "@DtoRelationIncludeId"
  | fullUpdate => "@DtoTypeFullUpdate"

/-- Every marker. -/
def all : List Marker :=
  [ignoreModel, readOnly, entityHidden, apiHidden, createOptional, updateOptional,
    relationRequired, createOnCreate, connectOnCreate, createOnUpdate, connectOnUpdate,
    includeId, fullUpdate]

theorem mem_all (m : Marker) : m ∈ all := by
  cases m <;> decide

end Marker

/-- Whether a documentation holds a text.  No documentation holds none. -/
def documented (documentation : Option String) (text : String) : Bool :=
  documentation.any (holdsText · text)

/-- Whether a documentation holds one of several markers. -/
def documentedOneOf (documentation : Option String) (markers : List Marker) : Bool :=
  markers.any fun m => documented documentation m.text

/-- Whether a field carries a marker. -/
def Field.has (f : Field) (m : Marker) : Bool :=
  documented f.documentation m.text

/-- Whether nothing is generated for a model. -/
def Model.isIgnored (m : Model) : Bool :=
  documented m.documentation Marker.ignoreModel.text

end DtoForge
