import ControlLoop.Attributes
import ControlLoop.Status

/-!
# Desired and observed state

What the caller wants a resource to look like, and what a read of it returned.
-/

namespace ControlLoop

/-- What the caller wants. -/
structure DesiredState where
  attributes : AttributeMap := .empty
  tags : TagSet := .empty
  deriving DecidableEq

namespace DesiredState

instance : Inhabited DesiredState := ⟨{}⟩

/-- The names of the members in JSON. -/
def fieldNames : List String := ["attributes", "tags"]

/-- Read a desired state. -/
def ofJson? (json : Json) : Option DesiredState := do
  let fields ← json.fields? fieldNames
  let attributes ← Json.defaulted fields "attributes" AttributeMap.read? .empty
  let tags ← Json.defaulted fields "tags" TagSet.ofJson? .empty
  return { attributes, tags }

/-- The desired state as JSON. -/
def toJson (state : DesiredState) : Json :=
  .object [
    ("attributes", state.attributes.toJson),
    ("tags", state.tags.toJson)]

end DesiredState

/-- What a read returned. -/
structure ObservedState where
  attributes : AttributeMap := .empty
  /-- The status, for resources that have one. -/
  status : Option String := none
  tags : TagSet := .empty
  deriving DecidableEq

namespace ObservedState

instance : Inhabited ObservedState := ⟨{}⟩

/-- Whether nothing was observed. -/
def isEmpty (state : ObservedState) : Bool :=
  state.attributes.isEmpty && state.status.isNone && state.tags.isEmpty

/-- The status as a poll sees it. -/
def observedStatus (state : ObservedState) : ObservedStatus :=
  .present (state.status.getD "")

/-- The names of the members in JSON. -/
def fieldNames : List String := ["attributes", "status", "tags"]

/-- Read an observed state. -/
def ofJson? (json : Json) : Option ObservedState := do
  let fields ← json.fields? fieldNames
  let attributes ← Json.defaulted fields "attributes" AttributeMap.read? .empty
  let status ← Json.optional fields "status" Json.string?
  let tags ← Json.defaulted fields "tags" TagSet.ofJson? .empty
  return { attributes, status, tags }

/-- The observed state as JSON; a missing status is left out. -/
def toJson (state : ObservedState) : Json :=
  .object (
    [("attributes", state.attributes.toJson)] ++
    (state.status.map fun status => ("status", Json.string status)).toList ++
    [("tags", state.tags.toJson)])

end ObservedState

end ControlLoop
