import ControlLoop.KeyMap
import ControlLoop.Json.Basic

/-!
# Records in JSON

A record is written as an object and may be read from an object, whose unknown
members are ignored, or from an array that gives the fields by position, where
trailing fields may be missing.  A choice without data is written as its name and
may be read from the name or from an object with that name bound to `null`.
-/

namespace ControlLoop.Json

/-- The members that hold the fields of a record. -/
def fields? (names : List String) : Json → Option (List (String × Json))
  | .object members => some members
  | .array items =>
      if items.length ≤ names.length then some (names.zip items) else none
  | _ => none

/-- A field that must be there. -/
def required {α : Type} (fields : List (String × Json)) (name : String)
    (read? : Json → Option α) : Option α :=
  (fields.lookup name).bind read?

/-- A field that has a value of its own when it is missing. -/
def defaulted {α : Type} (fields : List (String × Json)) (name : String)
    (read? : Json → Option α) (default : α) : Option α :=
  match fields.lookup name with
  | none => some default
  | some json => read? json

/-- A field that may be missing or `null`. -/
def optional {α : Type} (fields : List (String × Json)) (name : String)
    (read? : Json → Option α) : Option (Option α) :=
  match fields.lookup name with
  | none => some none
  | some .null => some none
  | some json => (read? json).map some

/-- The name of a choice without data. -/
def choice? : Json → Option String
  | .string name => some name
  | .object [(name, .null)] => some name
  | _ => none

/-- The name and the datum of a choice with data. -/
def tagged? : Json → Option (String × Json)
  | .object [(name, json)] => some (name, json)
  | _ => none

/-- Every item of an array by one reader. -/
def list? {α : Type} (read? : Json → Option α) (json : Json) : Option (List α) :=
  json.array?.bind fun items => items.mapM read?

/-- Every member of an object by one reader, the last of a name winning. -/
def keyMap? {α : Type} (read? : Json → Option α) (json : Json) :
    Option (KeyMap α) :=
  json.object?.bind fun members =>
    (members.mapM fun (member : String × Json) =>
      (read? member.2).map fun value => (member.1, value)).map KeyMap.ofList

/-- An object with the entries of a map. -/
def ofKeyMap {α : Type} (write : α → Json) (map : KeyMap α) : Json :=
  .object (map.entries.map fun entry => (entry.1, write entry.2))

end ControlLoop.Json
