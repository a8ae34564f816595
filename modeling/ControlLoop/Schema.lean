import ControlLoop.Json.Selection
import ControlLoop.Attributes

/-!
# Resource schemas

A schema declares the fields of a resource type: whether a field can be changed in
place, is fixed at creation or belongs to the remote side; how its values are
compared; and whether reads never return it.  A catalog holds one schema a type.
-/

namespace ControlLoop

/-- Who may set a field, and when. -/
inductive FieldClass where
  /-- Can be changed on an existing resource. -/
  | mutable
  /-- Fixed at creation. -/
  | immutable
  /-- Set by the remote side, never sent. -/
  | computed
  deriving DecidableEq, Repr

namespace FieldClass

/-- All classes. -/
def all : List FieldClass := [mutable, immutable, computed]

/-- The name of the class. -/
def name : FieldClass → String
  | .mutable => "mutable"
  | .immutable => "immutable"
  | .computed => "computed"

/-- Read a class. -/
def ofJson? (json : Json) : Option FieldClass :=
  json.choice?.bind fun name => all.find? fun cls => cls.name == name

end FieldClass

/-- The declaration of one field. -/
structure FieldSchema where
  classification : FieldClass
  /-- How values of the field are compared. -/
  compare : CompareMode := .ordered
  /-- Reads never return the field, so it is compared with what was last applied. -/
  writeOnly : Bool := false
  deriving DecidableEq, Repr

namespace FieldSchema

/-- The names of the members in JSON. -/
def fieldNames : List String := ["classification", "compare", "write_only"]

/-- Read a declaration. -/
def ofJson? (json : Json) : Option FieldSchema := do
  let fields ← json.fields? fieldNames
  let classification ← Json.required fields "classification" FieldClass.ofJson?
  let compare ← Json.defaulted fields "compare" CompareMode.ofJson? .ordered
  let writeOnly ← Json.defaulted fields "write_only" Json.bool? false
  return { classification, compare, writeOnly }

/-- The declaration as JSON. -/
def toJson (field : FieldSchema) : Json :=
  .object [
    ("classification", .string field.classification.name),
    ("compare", field.compare.toJson),
    ("write_only", .bool field.writeOnly)]

end FieldSchema

/-- The fields of one resource type. -/
structure ResourceSchema where
  resourceType : String
  fields : KeyMap FieldSchema := .empty
  deriving DecidableEq, Repr

namespace ResourceSchema

/-- Declare a field, replacing an earlier declaration. -/
def declare (schema : ResourceSchema) (name : String) (field : FieldSchema) :
    ResourceSchema :=
  { schema with fields := schema.fields.insert name field }

/-- The declaration of a field. -/
def field? (schema : ResourceSchema) (name : String) : Option FieldSchema :=
  schema.fields.get? name

/-- The class of every field. -/
def classifications (schema : ResourceSchema) : KeyMap FieldClass :=
  schema.fields.map FieldSchema.classification

/-- The names of the fields of one class. -/
def fieldsOf (schema : ResourceSchema) (cls : FieldClass) : List String :=
  (schema.fields.filter fun _ field => field.classification == cls).keys

/-- The names of the members in JSON. -/
def fieldNames : List String := ["resource_type", "fields"]

/-- Read a schema. -/
def ofJson? (json : Json) : Option ResourceSchema := do
  let fields ← json.fields? fieldNames
  let resourceType ← Json.required fields "resource_type" Json.string?
  let declared ←
    Json.defaulted fields "fields" (Json.keyMap? FieldSchema.ofJson?) .empty
  return { resourceType, fields := declared }

/-- The schema as JSON. -/
def toJson (schema : ResourceSchema) : Json :=
  .object [
    ("resource_type", .string schema.resourceType),
    ("fields", Json.ofKeyMap FieldSchema.toJson schema.fields)]

/-- The parts of a catalog text that are read. -/
def shape : Json.Shape :=
  .record [
    ("resource_type", .whole),
    ("fields", .entries (.record (FieldSchema.fieldNames.map fun name =>
      (name, .whole))))]

end ResourceSchema

/-- Schemas by resource type. -/
abbrev Catalog : Type := KeyMap ResourceSchema

namespace Catalog

/-- Add a schema, replacing an earlier one for the same type. -/
def register (catalog : Catalog) (schema : ResourceSchema) : Catalog :=
  catalog.insert schema.resourceType schema

/-- The catalog of a list of schemas, the last of a type winning. -/
def ofSchemas (schemas : List ResourceSchema) : Catalog :=
  schemas.foldl register KeyMap.empty

/-- Load a catalog from the text of a JSON array of schemas. -/
def ofText? (text : String) : Option Catalog := do
  let json ← Json.readSelected? (.each ResourceSchema.shape) text
  let schemas ← json.list? ResourceSchema.ofJson?
  return ofSchemas schemas

end Catalog

end ControlLoop
