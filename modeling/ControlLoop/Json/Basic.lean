/-!
# JSON data

`Json` is a JSON datum.  A number is an integer when it is written as one and
fits a signed or unsigned 64-bit word; any other number is kept as it was
written.  Object members are a list: whether a name may occur twice is decided by
whoever reads the object.

Main statement: `same_iff`, which makes equality of JSON data decidable.
-/

namespace ControlLoop

/-- A JSON datum. -/
inductive Json where
  | null
  | bool (value : Bool)
  /-- A number written without fraction and exponent that fits 64 bits. -/
  | integer (value : Int)
  /-- Any other number, as it was written. -/
  | decimal (literal : String)
  | string (value : String)
  | array (items : List Json)
  | object (members : List (String × Json))
  deriving Inhabited, Repr

namespace Json

/-! ## Equality -/

mutual

/-- Whether two data are equal. -/
def same : Json → Json → Bool
  | .null, .null => true
  | .bool left, .bool right => left == right
  | .integer left, .integer right => left == right
  | .decimal left, .decimal right => left == right
  | .string left, .string right => left == right
  | .array left, .array right => sameItems left right
  | .object left, .object right => sameMembers left right
  | _, _ => false

/-- Whether two lists of data are equal. -/
def sameItems : List Json → List Json → Bool
  | [], [] => true
  | left :: lefts, right :: rights => same left right && sameItems lefts rights
  | _, _ => false

/-- Whether two member lists are equal. -/
def sameMembers : List (String × Json) → List (String × Json) → Bool
  | [], [] => true
  | (name, left) :: lefts, (other, right) :: rights =>
      name == other && same left right && sameMembers lefts rights
  | _, _ => false

end

mutual

theorem same_iff : (left right : Json) → (same left right = true ↔ left = right)
  | .null, right => by cases right <;> simp [same]
  | .bool _, right => by cases right <;> simp [same]
  | .integer _, right => by cases right <;> simp [same]
  | .decimal _, right => by cases right <;> simp [same]
  | .string _, right => by cases right <;> simp [same]
  | .array items, right => by
      cases right <;> simp [same, sameItems_iff items]
  | .object members, right => by
      cases right <;> simp [same, sameMembers_iff members]

theorem sameItems_iff : (left right : List Json) →
    (sameItems left right = true ↔ left = right)
  | [], right => by cases right <;> simp [sameItems]
  | item :: items, right => by
      cases right <;> simp [sameItems, same_iff item, sameItems_iff items]

theorem sameMembers_iff : (left right : List (String × Json)) →
    (sameMembers left right = true ↔ left = right)
  | [], right => by cases right <;> simp [sameMembers]
  | (name, value) :: members, right => by
      cases right with
      | nil => simp [sameMembers]
      | cons entry entries =>
          obtain ⟨other, held⟩ := entry
          simp [sameMembers, same_iff value, sameMembers_iff members]

end

instance : DecidableEq Json := fun left right =>
  decidable_of_iff (same left right = true) (same_iff left right)

/-! ## Views -/

/-- Whether the datum is `null`. -/
def isNull : Json → Bool
  | .null => true
  | _ => false

/-- The truth value, if the datum is one. -/
def bool? : Json → Option Bool
  | .bool value => some value
  | _ => none

/-- The integer, if the datum is one. -/
def integer? : Json → Option Int
  | .integer value => some value
  | _ => none

/-- The unsigned integer, if the datum is one. -/
def natural? : Json → Option Nat
  | .integer (.ofNat value) => some value
  | _ => none

/-- The string, if the datum is one. -/
def string? : Json → Option String
  | .string value => some value
  | _ => none

/-- The items, if the datum is an array. -/
def array? : Json → Option (List Json)
  | .array items => some items
  | _ => none

/-- The members, if the datum is an object. -/
def object? : Json → Option (List (String × Json))
  | .object members => some members
  | _ => none

/-- The first member of the given name, if the datum is an object with one. -/
def member? (json : Json) (name : String) : Option Json :=
  json.object?.bind fun members => members.lookup name

/-- The items as strings, if the datum is an array of strings. -/
def strings? (json : Json) : Option (List String) :=
  json.array?.bind fun items => items.mapM string?

/-- An array of strings. -/
def ofStrings (values : List String) : Json :=
  .array (values.map .string)

/-! ## Compact text -/

/-- How one character is written inside a JSON string. -/
def escaped (c : Char) : List Char :=
  match c with
  | '"' => ['\\', '"']
  | '\\' => ['\\', '\\']
  | '\x08' => ['\\', 'b']
  | '\x0c' => ['\\', 'f']
  | '\n' => ['\\', 'n']
  | '\r' => ['\\', 'r']
  | '\t' => ['\\', 't']
  | c =>
      if c.toNat < 0x20 then
        ['\\', 'u', '0', '0', Nat.digitChar (c.toNat / 16),
          Nat.digitChar (c.toNat % 16)]
      else [c]

/-- A string literal. -/
def literal (value : String) : String :=
  String.ofList ('"' :: value.toList.flatMap escaped ++ ['"'])

mutual

/-- The datum as text without blanks. -/
def render : Json → String
  | .null => "null"
  | .bool true => "true"
  | .bool false => "false"
  | .integer value => toString value
  | .decimal literal => literal
  | .string value => literal value
  | .array items => "[" ++ ",".intercalate (renderItems items) ++ "]"
  | .object members => "\x7b" ++ ",".intercalate (renderMembers members) ++ "\x7d"

/-- The texts of a list of data. -/
def renderItems : List Json → List String
  | [] => []
  | item :: items => render item :: renderItems items

/-- The texts of a member list. -/
def renderMembers : List (String × Json) → List String
  | [] => []
  | (name, value) :: members =>
      (literal name ++ ":" ++ render value) :: renderMembers members

end

end Json

end ControlLoop
