import ControlLoop.Json.Record

/-!
# Tags

Tags are pairs of text attached to a resource.  A `TagDelta` lists the pairs to set
and the keys to remove that lead from the observed to the desired tags.
-/

namespace ControlLoop

/-- Tag keys with their values. -/
abbrev TagSet : Type := KeyMap String

/-- A set of keys. -/
abbrev KeySet : Type := KeyMap Unit

namespace KeySet

/-- The set of the listed keys. -/
def ofKeys (keys : List String) : KeySet :=
  KeyMap.ofList (keys.map fun key => (key, ()))

end KeySet

namespace TagSet

/-- Read a tag set. -/
def ofJson? (json : Json) : Option TagSet :=
  json.keyMap? Json.string?

/-- The tags as a JSON object. -/
def toJson (tags : TagSet) : Json :=
  Json.ofKeyMap Json.string tags

end TagSet

/-- The changes from observed to desired tags. -/
structure TagDelta where
  /-- Pairs that are new or have a new value. -/
  toReplace : TagSet
  /-- Keys that are no longer wanted. -/
  toDelete : KeySet
  deriving DecidableEq

namespace TagDelta

/-- The delta that changes nothing. -/
def empty : TagDelta := ⟨.empty, .empty⟩

/-- Whether nothing needs to change. -/
def isEmpty (delta : TagDelta) : Bool :=
  delta.toReplace.isEmpty && delta.toDelete.isEmpty

/-- The changes from `observed` to `desired`. -/
def between (desired observed : TagSet) : TagDelta where
  toReplace := desired.filter fun key value => observed.get? key != some value
  toDelete := (observed.filter fun key _ => !desired.contains key).map fun _ => ()

end TagDelta

/-- The address of a resource on the tag service. -/
structure TagResource where
  service : String
  resourceType : String
  /-- Empty for resources without a region. -/
  region : String
  id : String
  deriving DecidableEq, Repr

namespace TagResource

/-- The name by which the tag service knows the resource. -/
def name (resource : TagResource) : String :=
  resource.service ++ ":" ++ resource.region ++ ":" ++ resource.resourceType ++ "/" ++
    resource.id

/-- The names of the members in JSON. -/
def fieldNames : List String := ["service", "resource_type", "region", "id"]

/-- Read an address. -/
def ofJson? (json : Json) : Option TagResource := do
  let fields ← json.fields? fieldNames
  let service ← Json.required fields "service" Json.string?
  let resourceType ← Json.required fields "resource_type" Json.string?
  let region ← Json.required fields "region" Json.string?
  let id ← Json.required fields "id" Json.string?
  return { service, resourceType, region, id }

/-- The address as JSON. -/
def toJson (resource : TagResource) : Json :=
  .object [
    ("service", .string resource.service),
    ("resource_type", .string resource.resourceType),
    ("region", .string resource.region),
    ("id", .string resource.id)]

end TagResource

end ControlLoop
