/-
Reading a data model from JSON.

A record is an object, or an array of its fields in their order.  In an object unknown
keys are ignored, however often they stand there, and a known key may stand once.  In an
array fields may be missing from the end if they have a default, and none may be added.
A text holds the data model itself or, under the key `datamodel`, a section of a larger
document; the section is tried first.
-/
import DtoForge.Error
import DtoForge.Json.Reader
import DtoForge.Schema.Basic

namespace DtoForge

/-! ### Records -/

/-- The fields of a record that are present. -/
abbrev Row := String → Option Json

namespace Row

/-- The fields of a record with the given keys, if the value is one. -/
def ofJson? (keys : List String) : Json → Option Row
  | .object members =>
    if keys.all fun k => (members.filter (·.1 == k)).length ≤ 1 then
      some fun k => members.lookup k
    else none
  | .array items =>
    if items.length ≤ keys.length then some fun k => (keys.zip items).lookup k
    else none
  | _ => none

/-- A field that has to be present. -/
def required (row : Row) (key : String) (read? : Json → Option α) : Option α :=
  row key >>= read?

/-- A field that may be missing. -/
def defaulted (row : Row) (key : String) (read? : Json → Option α) (absent : α) : Option α :=
  match row key with
  | none => some absent
  | some j => read? j

/-- A field that may be missing or `null`. -/
def optional (row : Row) (key : String) (read? : Json → Option α) : Option (Option α) :=
  row.defaulted key (Json.nullable? read?) none

/-- A truth value that is false where it is missing. -/
def flag (row : Row) (key : String) : Option Bool :=
  row.defaulted key Json.bool? false

end Row

/-! ### The parts of a data model -/

namespace FieldKind

/-- The word for a kind. -/
def word : FieldKind → String
  | scalar => "scalar"
  | object => "object"
  | enumeration => "enum"
  | unsupported => "unsupported"

/-- The kind of a word. -/
def ofWord? (w : String) : Option FieldKind :=
  [scalar, object, enumeration, unsupported].find? (·.word == w)

theorem ofWord?_word (k : FieldKind) : ofWord? k.word = some k := by
  cases k <;> decide

/-- A kind is its word, or an object with the word as its one key and `null` under it. -/
def ofJson? : Json → Option FieldKind
  | .string w => ofWord? w
  | .object [(w, .null)] => ofWord? w
  | _ => none

end FieldKind

/-- The keys of a field, in order. -/
def Field.keys : List String :=
  ["name", "kind", "type", "isRequired", "isList", "isId", "isUnique", "isReadOnly",
    "isUpdatedAt", "hasDefaultValue", "default", "relationName", "relationFromFields",
    "documentation"]

/-- The field that a value encodes. -/
def Field.ofJson? (j : Json) : Option Field := do
  let row ← Row.ofJson? keys j
  let name ← row.required "name" Json.string?
  let kind ← row.required "kind" FieldKind.ofJson?
  let type ← row.required "type" Json.string?
  let isRequired ← row.flag "isRequired"
  let isList ← row.flag "isList"
  let isId ← row.flag "isId"
  let isUnique ← row.flag "isUnique"
  let isReadOnly ← row.flag "isReadOnly"
  let isUpdatedAt ← row.flag "isUpdatedAt"
  let hasDefaultValue ← row.flag "hasDefaultValue"
  let defaultValue ← row.optional "default" some
  let relationName ← row.optional "relationName" Json.string?
  let relationFromFields ← row.defaulted "relationFromFields" (Json.list? Json.string?) []
  let documentation ← row.optional "documentation" Json.string?
  some { name, kind, type, isRequired, isList, isId, isUnique, isReadOnly, isUpdatedAt,
         hasDefaultValue, defaultValue, relationName, relationFromFields, documentation }

/-- The keys of a model, in order. -/
def Model.keys : List String :=
  ["name", "dbName", "fields", "documentation"]

/-- The model or composite type that a value encodes. -/
def Model.ofJson? (j : Json) : Option Model := do
  let row ← Row.ofJson? keys j
  let name ← row.required "name" Json.string?
  let dbName ← row.optional "dbName" Json.string?
  let fields ← row.defaulted "fields" (Json.list? Field.ofJson?) []
  let documentation ← row.optional "documentation" Json.string?
  some { name, dbName, fields, documentation }

/-- The keys of an enum value, in order. -/
def EnumValue.keys : List String :=
  ["name", "dbName"]

/-- The enum value that a value encodes. -/
def EnumValue.ofJson? (j : Json) : Option EnumValue := do
  let row ← Row.ofJson? keys j
  let name ← row.required "name" Json.string?
  let dbName ← row.optional "dbName" Json.string?
  some { name, dbName }

/-- The keys of an enum, in order. -/
def EnumDecl.keys : List String :=
  ["name", "values"]

/-- The enum that a value encodes. -/
def EnumDecl.ofJson? (j : Json) : Option EnumDecl := do
  let row ← Row.ofJson? keys j
  let name ← row.required "name" Json.string?
  let values ← row.defaulted "values" (Json.list? EnumValue.ofJson?) []
  some { name, values }

/-! ### Data models -/

namespace Datamodel

/-- The keys of a data model, in order. -/
def keys : List String :=
  ["models", "enums", "types"]

/-- The data model that a value encodes. -/
def ofJson? (j : Json) : Option Datamodel := do
  let row ← Row.ofJson? keys j
  let models ← row.defaulted "models" (Json.list? Model.ofJson?) []
  let enums ← row.defaulted "enums" (Json.list? EnumDecl.ofJson?) []
  let types ← row.defaulted "types" (Json.list? Model.ofJson?) []
  some { models, enums, types }

/-- The data model in the section of a document. -/
def ofSection? : Json → Option Datamodel
  | .object members => do
    let row ← Row.ofJson? ["datamodel"] (.object members)
    row.required "datamodel" ofJson?
  | _ => none

/-- The data model of a document: its section if that can be read, else the document
itself. -/
def ofDocument? (j : Json) : Option Datamodel :=
  match ofSection? j with
  | some dm => some dm
  | none => ofJson? j

/-- The data model of a text.  The value at the front of the text has to be a data model
before what follows it is looked at, and only white space may follow. -/
def read (text : String) : Except Fault Datamodel :=
  match Json.front? text with
  | none => .error .malformedSchema
  | some (j, rest) =>
    match ofDocument? j with
    | none => .error .misshapenSchema
    | some dm => if (Json.skip rest).isEmpty then .ok dm else .error .malformedSchema

end Datamodel

end DtoForge
