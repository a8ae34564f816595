import ControlLoop.Value.Tree
import ControlLoop.Json.Record
import ControlLoop.Text.Quoted

/-!
# Attribute values

A `Value` is a truth value, a signed 64-bit integer, a string, a list of values
or a map of values; there is no null and no fraction.  It is a `Tree` whose maps
are in key order, so equal values are equal trees.
-/

namespace ControlLoop

/-- A single attribute value. -/
structure Value where
  /-- The value as a tree. -/
  tree : Tree
  /-- Maps at every depth are in key order. -/
  ordered : tree.Ordered
  deriving DecidableEq

namespace Value

/-! ## Construction -/

/-- A truth value. -/
def bool (value : Bool) : Value := ⟨.bool value, trivial⟩

/-- An integer. -/
def int (value : Int64) : Value := ⟨.int value, trivial⟩

/-- A string. -/
def string (value : String) : Value := ⟨.string value, trivial⟩

/-- A list. -/
def list (items : List Value) : Value where
  tree := .list (items.map tree)
  ordered := Tree.orderedItems_iff.2 fun item member => by
    obtain ⟨value, _, rfl⟩ := List.mem_map.1 member
    exact value.ordered

/-- A map. -/
def map (entries : KeyMap Value) : Value where
  tree := .map (entries.map tree).entries
  ordered := ⟨(entries.map tree).sorted, Tree.orderedEntries_iff.2 fun entry member => by
    obtain ⟨⟨key, value⟩, _, rfl⟩ := List.mem_map.1 member
    exact value.ordered⟩

instance : Inhabited Value := ⟨bool false⟩

/-! ## Views -/

/-- The truth value, if the value is one. -/
def bool? (value : Value) : Option Bool :=
  match value.tree with
  | .bool held => some held
  | _ => none

/-- The integer, if the value is one. -/
def int? (value : Value) : Option Int64 :=
  match value.tree with
  | .int held => some held
  | _ => none

/-- The string, if the value is one. -/
def string? (value : Value) : Option String :=
  match value.tree with
  | .string held => some held
  | _ => none

/-- The items, if the value is a list. -/
def list? (value : Value) : Option (List Value) :=
  match value with
  | ⟨.list items, ordered⟩ =>
      some (items.pmap Value.mk (Tree.orderedItems_iff.1 ordered))
  | _ => none

/-- The entries, if the value is a map. -/
def map? (value : Value) : Option (KeyMap Value) :=
  match value with
  | ⟨.map entries, ordered⟩ =>
      some {
        entries := entries.pmap (fun entry held => (entry.1, ⟨entry.2, held⟩))
          (Tree.orderedEntries_iff.1 ordered.2)
        sorted := by
          rw [List.map_pmap]
          simpa using ordered.1 }
  | _ => none

/-- The name of the kind of a tree. -/
def kindOf : Tree → String
  | .bool _ => "bool"
  | .int _ => "int"
  | .string _ => "string"
  | .list _ => "list"
  | .map _ => "map"

/-- The name of the kind of a value. -/
def kind (value : Value) : String :=
  kindOf value.tree

end Value

/-! ## As JSON -/

namespace Tree

mutual

/-- The tree as JSON. -/
def toJson : Tree → Json
  | .bool value => .bool value
  | .int value => .integer value.toInt
  | .string value => .string value
  | .list items => .array (itemsToJson items)
  | .map entries => .object (entriesToJson entries)

/-- A list of trees as JSON. -/
def itemsToJson : List Tree → List Json
  | [] => []
  | item :: items => toJson item :: itemsToJson items

/-- An entry list as JSON members. -/
def entriesToJson : List (String × Tree) → List (String × Json)
  | [] => []
  | (key, value) :: entries => (key, toJson value) :: entriesToJson entries

end

end Tree

namespace Value

/-- The value as JSON. -/
def toJson (value : Value) : Json :=
  value.tree.toJson

/-- The value as people read it: a string between quotes, a container as compact
JSON. -/
def text (value : Value) : String :=
  match value.tree with
  | .string held => Text.quoted held
  | tree => tree.toJson.render

end Value

end ControlLoop
