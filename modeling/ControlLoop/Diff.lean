import ControlLoop.Schema

/-!
# Field differences

Desired attributes are compared field by field with a baseline: what was last
observed and, where known, what was last applied.  A mutable field that differs
yields an update; an immutable field that differs from an existing value yields a
violation; computed fields are passed over.  A field that reads never return is
compared with the applied value, and passed over when nothing is known to have
been applied.
-/

namespace ControlLoop

/-- A field that must be sent to the remote. -/
structure FieldUpdate where
  field : String
  /-- The value that was compared against, if there was one. -/
  old : Option Value
  new : Value
  deriving DecidableEq

namespace FieldUpdate

/-- The names of the members in JSON. -/
def fieldNames : List String := ["field", "old", "new"]

/-- Read an update. -/
def ofJson? (json : Json) : Option FieldUpdate := do
  let fields ← json.fields? fieldNames
  let field ← Json.required fields "field" Json.string?
  let old ← Json.optional fields "old" Value.read?
  let new ← Json.required fields "new" Value.read?
  return { field, old, new }

/-- The update as JSON. -/
def toJson (update : FieldUpdate) : Json :=
  .object [
    ("field", .string update.field),
    ("old", (update.old.map Value.toJson).getD .null),
    ("new", update.new.toJson)]

end FieldUpdate

/-- A desired change to a field that is fixed at creation. -/
structure FrozenField where
  field : String
  /-- The value observed or last applied. -/
  current : Value
  desired : Value
  deriving DecidableEq

namespace FrozenField

/-- The names of the members in JSON. -/
def fieldNames : List String := ["field", "current", "desired"]

/-- Read a violation. -/
def ofJson? (json : Json) : Option FrozenField := do
  let fields ← json.fields? fieldNames
  let field ← Json.required fields "field" Json.string?
  let current ← Json.required fields "current" Value.read?
  let desired ← Json.required fields "desired" Value.read?
  return { field, current, desired }

/-- The violation as JSON. -/
def toJson (violation : FrozenField) : Json :=
  .object [
    ("field", .string violation.field),
    ("current", violation.current.toJson),
    ("desired", violation.desired.toJson)]

/-- The violation in words. -/
def text (violation : FrozenField) : String :=
  "argument `" ++ violation.field ++ "` cannot be changed (" ++
    violation.current.text ++ " -> " ++ violation.desired.text ++ ")"

end FrozenField

/-- A desired field that the schema does not declare. -/
structure UndeclaredField where
  resourceType : String
  field : String
  deriving DecidableEq, Repr

namespace UndeclaredField

/-- The fault in words. -/
def message (fault : UndeclaredField) : String :=
  "field '" ++ fault.field ++ "' is not declared in the schema of '" ++
    fault.resourceType ++ "'"

end UndeclaredField

/-- What a desired map is compared against. -/
structure Baseline where
  /-- Attributes from the latest read. -/
  observed : AttributeMap
  /-- Desired attributes applied by an earlier pass. -/
  applied : Option AttributeMap
  deriving DecidableEq

namespace Baseline

/-- Whether nothing is known: nothing was observed and nothing applied. -/
def isInitial (baseline : Baseline) : Bool :=
  baseline.observed.isEmpty && baseline.applied.all KeyMap.isEmpty

/-- The applied value of a field. -/
def appliedValue? (baseline : Baseline) (name : String) : Option Value :=
  baseline.applied.bind fun applied => applied.get? name

/-- The value that a readable field is compared with: what was observed or, for a
field fixed at creation, failing that what was applied. -/
def readableValue? (baseline : Baseline) (cls : FieldClass) (name : String) :
    Option Value :=
  match cls with
  | .immutable =>
      (baseline.observed.get? name).or (baseline.appliedValue? name)
  | _ => baseline.observed.get? name

end Baseline

/-- What a field asks for. -/
inductive FieldChange where
  | update (update : FieldUpdate)
  | violation (violation : FrozenField)
  deriving DecidableEq

/-- The differences found, in the order of field names. -/
structure FieldDiff where
  updates : List FieldUpdate
  violations : List FrozenField
  deriving DecidableEq

namespace FieldDiff

/-- Whether nothing needs to change. -/
def isEmpty (diff : FieldDiff) : Bool :=
  diff.updates.isEmpty && diff.violations.isEmpty

/-- Whether the desired state can be applied in place. -/
def isApplicable (diff : FieldDiff) : Bool :=
  diff.violations.isEmpty

/-- The names of the fields to be updated. -/
def updatedFields (diff : FieldDiff) : List String :=
  diff.updates.map FieldUpdate.field

/-- What a declared field asks for, given the value it is compared with. -/
def changeFrom (field : FieldSchema) (isInitial : Bool) (name : String)
    (wanted : Value) (current : Option Value) : Option FieldChange :=
  let unchanged := current.any fun current => current.equivalent wanted field.compare
  match field.classification with
  | .computed => none
  | .immutable =>
      if isInitial || unchanged then none
      else current.map fun current => .violation ⟨name, current, wanted⟩
  | .mutable =>
      if unchanged then none else some (.update ⟨name, current, wanted⟩)

/-- What a declared field asks for. -/
def change? (baseline : Baseline) (field : FieldSchema) (name : String)
    (wanted : Value) : Option FieldChange :=
  if field.writeOnly then
    if baseline.applied.isNone then none
    else changeFrom field baseline.isInitial name wanted (baseline.appliedValue? name)
  else
    changeFrom field baseline.isInitial name wanted
      (baseline.readableValue? field.classification name)

/-- What the fields of an entry list ask for, up to the first field that is not
declared. -/
def changes (baseline : Baseline) (schema : ResourceSchema) :
    List (String × Value) → Except UndeclaredField (List FieldChange)
  | [] => .ok []
  | (name, wanted) :: entries =>
      match schema.field? name with
      | none => .error ⟨schema.resourceType, name⟩
      | some field =>
          (changes baseline schema entries).map fun later =>
            (change? baseline field name wanted).toList ++ later

/-- Sort changes by kind. -/
def ofChanges (changes : List FieldChange) : FieldDiff where
  updates := changes.filterMap fun
    | .update update => some update
    | .violation _ => none
  violations := changes.filterMap fun
    | .update _ => none
    | .violation violation => some violation

end FieldDiff

/-- Compare desired attributes with a baseline. -/
def diffAgainst (desired : AttributeMap) (baseline : Baseline)
    (schema : ResourceSchema) : Except UndeclaredField FieldDiff :=
  (FieldDiff.changes baseline schema desired.entries).map FieldDiff.ofChanges

end ControlLoop
