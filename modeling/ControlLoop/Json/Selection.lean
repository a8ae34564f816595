import ControlLoop.KeyMap
import ControlLoop.Json.Document

/-!
# Reading data out of documents

A `Shape` says which parts of a document will be read.  `Document.select?` turns
these parts into data and drops the members that no one asks for, which need only
be well-formed text.  The parts that are read must be usable: strings without
unpaired surrogates, numbers within the range of doubles, containers nested at
most `depthLimit` deep.

A record must not repeat a member that is read.  Any other object is read with all
its members, in the order of the text; `Json.ofText?` brings them into key order,
the last one of a name winning.
-/

namespace ControlLoop.Json

/-- Which parts of a document are read. -/
inductive Shape where
  /-- Everything. -/
  | whole
  /-- The named members of an object, or the items at their positions. -/
  | record (fields : List (String × Shape))
  /-- Every item of an array. -/
  | each (item : Shape)
  /-- Every member of an object. -/
  | entries (value : Shape)

/-- Containers may be nested this deep in a text. -/
def depthLimit : Nat := 127

namespace Document

/-- Keys and values in key order, the last value of a key winning. -/
def collect (members : List (String × Json)) : Json :=
  .object (KeyMap.ofList members).entries

mutual

/-- The whole document as data, with at most `depth` nested containers, where
`gather` makes an object of members in the order of the text. -/
def decode? (gather : List (String × Json) → Json) (depth : Nat) :
    Document → Option Json
  | .null => some .null
  | .bool value => some (.bool value)
  | .number literal numeral =>
      match numeral.integer? with
      | some value => some (.integer value)
      | none => if numeral.isFinite then some (.decimal literal) else none
  | .string content => content.map .string
  | .array items =>
      match depth with
      | 0 => none
      | depth + 1 => (decodeItems? gather depth items).map .array
  | .object members =>
      match depth with
      | 0 => none
      | depth + 1 => (decodeMembers? gather depth members).map gather

/-- The items of an array as data. -/
def decodeItems? (gather : List (String × Json) → Json) (depth : Nat) :
    List Document → Option (List Json)
  | [] => some []
  | item :: items =>
      match decode? gather depth item, decodeItems? gather depth items with
      | some item, some items => some (item :: items)
      | _, _ => none

/-- The members of an object as data, in the order of the text. -/
def decodeMembers? (gather : List (String × Json) → Json) (depth : Nat) :
    List (Option String × Document) → Option (List (String × Json))
  | [] => some []
  | (key, value) :: members =>
      match key, decode? gather depth value, decodeMembers? gather depth members with
      | some key, some value, some members => some ((key, value) :: members)
      | _, _, _ => none

end

mutual

/-- The parts of a document that a shape asks for. -/
def select? (shape : Shape) (depth : Nat) : Document → Option Json
  | .array items =>
      match depth, shape with
      | 0, _ => none
      | depth + 1, .record fields =>
          (selectPositions? fields depth items).map .array
      | depth + 1, .each item => (selectItems? item depth items).map .array
      | depth + 1, _ => (decodeItems? .object depth items).map .array
  | .object members =>
      match depth, shape with
      | 0, _ => none
      | depth + 1, .record fields =>
          (selectFields? fields depth members).map .object
      | depth + 1, .entries value =>
          (selectEntries? value depth members).map .object
      | depth + 1, _ => (decodeMembers? .object depth members).map .object
  | document => decode? .object depth document

/-- The items of an array, each by the same shape. -/
def selectItems? (shape : Shape) (depth : Nat) :
    List Document → Option (List Json)
  | [] => some []
  | item :: items =>
      match select? shape depth item, selectItems? shape depth items with
      | some item, some items => some (item :: items)
      | _, _ => none

/-- The items of an array, each by the shape of the field at its position; there
must not be more items than fields. -/
def selectPositions? (fields : List (String × Shape)) (depth : Nat) :
    List Document → Option (List Json)
  | [] => some []
  | item :: items =>
      match fields with
      | [] => none
      | (_, shape) :: fields =>
          match select? shape depth item, selectPositions? fields depth items with
          | some item, some items => some (item :: items)
          | _, _ => none

/-- The members of an object, each by the same shape. -/
def selectEntries? (shape : Shape) (depth : Nat) :
    List (Option String × Document) → Option (List (String × Json))
  | [] => some []
  | (key, value) :: members =>
      match key, select? shape depth value, selectEntries? shape depth members with
      | some key, some value, some members => some ((key, value) :: members)
      | _, _, _ => none

/-- The members of an object that are among the fields; none of these may occur
twice. -/
def selectFields? (fields : List (String × Shape)) (depth : Nat) :
    List (Option String × Document) → Option (List (String × Json))
  | [] => some []
  | (key, value) :: members =>
      match key, selectFields? fields depth members with
      | some key, some selected =>
          match fields.lookup key with
          | none => some selected
          | some shape =>
              if (selected.lookup key).isSome then none
              else (select? shape depth value).map fun value =>
                (key, value) :: selected
      | _, _ => none

end

end Document

/-- Read the parts of a text that a shape asks for. -/
def readSelected? (shape : Shape) (text : String) : Option Json :=
  (Document.ofText? text).bind (Document.select? shape depthLimit)

/-- Read a text as a whole; of members with one name the last one counts. -/
def ofText? (text : String) : Option Json :=
  (Document.ofText? text).bind (Document.decode? Document.collect depthLimit)

end ControlLoop.Json
