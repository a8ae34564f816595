import ControlLoop.Value.Comparison
import ControlLoop.Value.Reading

/-!
# Attribute maps

Desired and observed attributes map field names to values, in key order.  A
foreign JSON object is converted member by member: `null` counts as absent, and
the names of other members without a value are reported as dropped.  The reader
of stored records refuses such objects instead.
-/

namespace ControlLoop

/-- Field names with their values. -/
abbrev AttributeMap : Type := KeyMap Value

namespace AttributeMap

/-- The string in a field, if the field holds one. -/
def string? (attributes : AttributeMap) (name : String) : Option String :=
  (attributes.get? name).bind Value.string?

/-- Convert a JSON object, with the names of the members that are neither `null`
nor representable. -/
def ofJsonObject (object : KeyMap Json) : AttributeMap × List String :=
  (.ofList (object.entries.filterMap fun member =>
      (Value.ofJson? member.2).map fun value => (member.1, value)),
    (object.entries.filter fun member =>
      (Value.ofJson? member.2).isNone && !member.2.isNull).map Prod.fst)

/-- Read the attributes of a stored record. -/
def read? (json : Json) : Option AttributeMap :=
  json.keyMap? Value.read?

/-- The attributes as a JSON object. -/
def toJson (attributes : AttributeMap) : Json :=
  Json.ofKeyMap Value.toJson attributes

end AttributeMap

end ControlLoop
