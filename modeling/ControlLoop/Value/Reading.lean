import ControlLoop.Json.Selection
import ControlLoop.Value.Basic

/-!
# Reading values from JSON

There are two readers.  `Value.ofJson?` converts a datum by its kind.
`Value.read?` is the reader of stored records: it tries the kinds of values in
turn and takes the first that fits.  Both refuse null, numbers that are not
integers, integers beyond 64 bits, and containers that hold any of these.
-/

namespace ControlLoop

namespace Tree

/-- A signed 64-bit integer, if the number is in range. -/
def int64? (value : Int) : Option Int64 :=
  if Int64.minValue.toInt ≤ value ∧ value ≤ Int64.maxValue.toInt then some (.ofInt value)
  else none

mutual

/-- Convert a datum by its kind. -/
def ofJson? : Json → Option Tree
  | .null => none
  | .bool value => some (.bool value)
  | .integer value => (int64? value).map .int
  | .decimal _ => none
  | .string value => some (.string value)
  | .array items => (ofJsonItems? items).map .list
  | .object members =>
      (ofJsonMembers? members).map fun entries =>
        .map (KeyMap.ofList entries).entries

/-- Convert the items of an array. -/
def ofJsonItems? : List Json → Option (List Tree)
  | [] => some []
  | item :: items =>
      match ofJson? item, ofJsonItems? items with
      | some item, some items => some (item :: items)
      | _, _ => none

/-- Convert the members of an object. -/
def ofJsonMembers? : List (String × Json) → Option (List (String × Tree))
  | [] => some []
  | (key, value) :: members =>
      match ofJson? value, ofJsonMembers? members with
      | some value, some entries => some ((key, value) :: entries)
      | _, _ => none

end

mutual

/-- Try a truth value, an integer, a string, a list and a map, in this order. -/
def read? (json : Json) : Option Tree :=
  (json.bool?.map .bool).or <|
  ((json.integer?.bind int64?).map .int).or <|
  (json.string?.map .string).or <|
  (match json with
    | .array items => (readItems? items).map Tree.list
    | _ => none).or <|
  (match json with
    | .object members =>
        (readMembers? members).map fun entries =>
          Tree.map (KeyMap.ofList entries).entries
    | _ => none)

/-- Read the items of an array. -/
def readItems? : List Json → Option (List Tree)
  | [] => some []
  | item :: items =>
      (read? item).bind fun item => (readItems? items).map (item :: ·)

/-- Read the members of an object. -/
def readMembers? : List (String × Json) → Option (List (String × Tree))
  | [] => some []
  | (key, value) :: members =>
      (read? value).bind fun value =>
        (readMembers? members).map ((key, value) :: ·)

end

theorem ordered_mapOfList {entries : List (String × Tree)}
    (ordered : OrderedEntries entries) :
    Ordered (.map (KeyMap.ofList entries).entries) :=
  ⟨(KeyMap.ofList entries).sorted, orderedEntries_iff.2 fun entry member =>
    orderedEntries_iff.1 ordered entry (KeyMap.mem_of_mem_ofList member)⟩

mutual

theorem ordered_of_ofJson? : (json : Json) → {tree : Tree} →
    ofJson? json = some tree → tree.Ordered
  | .null, _, read => by simp [ofJson?] at read
  | .bool _, _, read => by
      simp only [ofJson?, Option.some.injEq] at read; subst read; trivial
  | .integer _, _, read => by
      simp only [ofJson?, Option.map_eq_some_iff] at read
      obtain ⟨_, _, rfl⟩ := read; trivial
  | .decimal _, _, read => by simp [ofJson?] at read
  | .string _, _, read => by
      simp only [ofJson?, Option.some.injEq] at read; subst read; trivial
  | .array items, _, read => by
      simp only [ofJson?, Option.map_eq_some_iff] at read
      obtain ⟨_, read, rfl⟩ := read
      exact ordered_of_ofJsonItems? items read
  | .object members, _, read => by
      simp only [ofJson?, Option.map_eq_some_iff] at read
      obtain ⟨_, read, rfl⟩ := read
      exact ordered_mapOfList (ordered_of_ofJsonMembers? members read)

theorem ordered_of_ofJsonItems? : (items : List Json) → {trees : List Tree} →
    ofJsonItems? items = some trees → OrderedItems trees
  | [], _, read => by
      simp only [ofJsonItems?, Option.some.injEq] at read; subst read; trivial
  | item :: items, _, read => by
      simp only [ofJsonItems?] at read
      split at read
      next first rest =>
        simp only [Option.some.injEq] at read
        subst read
        exact ⟨ordered_of_ofJson? item first, ordered_of_ofJsonItems? items rest⟩
      next => cases read

theorem ordered_of_ofJsonMembers? : (members : List (String × Json)) →
    {entries : List (String × Tree)} →
    ofJsonMembers? members = some entries → OrderedEntries entries
  | [], _, read => by
      simp only [ofJsonMembers?, Option.some.injEq] at read; subst read; trivial
  | (_, value) :: members, _, read => by
      simp only [ofJsonMembers?] at read
      split at read
      next first rest =>
        simp only [Option.some.injEq] at read
        subst read
        exact ⟨ordered_of_ofJson? value first, ordered_of_ofJsonMembers? members rest⟩
      next => cases read

end

mutual

theorem ordered_of_read? : (json : Json) → {tree : Tree} →
    read? json = some tree → tree.Ordered
  | .null, _, read => by
      simp [read?, Json.bool?, Json.integer?, Json.string?] at read
  | .bool _, _, read => by
      simp [read?, Json.bool?] at read; subst read; trivial
  | .integer _, _, read => by
      simp [read?, Json.bool?, Json.integer?, Json.string?] at read
      obtain ⟨_, _, rfl⟩ := read; trivial
  | .decimal _, _, read => by
      simp [read?, Json.bool?, Json.integer?, Json.string?] at read
  | .string _, _, read => by
      simp [read?, Json.bool?, Json.integer?, Json.string?] at read
      subst read; trivial
  | .array items, _, read => by
      simp [read?, Json.bool?, Json.integer?, Json.string?] at read
      obtain ⟨_, read, rfl⟩ := read
      exact ordered_of_readItems? items read
  | .object members, _, read => by
      simp [read?, Json.bool?, Json.integer?, Json.string?] at read
      obtain ⟨_, read, rfl⟩ := read
      exact ordered_mapOfList (ordered_of_readMembers? members read)

theorem ordered_of_readItems? : (items : List Json) → {trees : List Tree} →
    readItems? items = some trees → OrderedItems trees
  | [], _, read => by
      simp only [readItems?, Option.some.injEq] at read; subst read; trivial
  | item :: items, _, read => by
      simp only [readItems?, Option.bind_eq_some_iff, Option.map_eq_some_iff] at read
      obtain ⟨_, first, _, rest, rfl⟩ := read
      exact ⟨ordered_of_read? item first, ordered_of_readItems? items rest⟩

theorem ordered_of_readMembers? : (members : List (String × Json)) →
    {entries : List (String × Tree)} →
    readMembers? members = some entries → OrderedEntries entries
  | [], _, read => by
      simp only [readMembers?, Option.some.injEq] at read; subst read; trivial
  | (_, value) :: members, _, read => by
      simp only [readMembers?, Option.bind_eq_some_iff, Option.map_eq_some_iff] at read
      obtain ⟨_, first, _, rest, rfl⟩ := read
      exact ⟨ordered_of_read? value first, ordered_of_readMembers? members rest⟩

end

end Tree

namespace Value

/-- Convert a datum by its kind. -/
def ofJson? (json : Json) : Option Value :=
  (Tree.ofJson? json).pmap Value.mk fun _ read => Tree.ordered_of_ofJson? json read

/-- Read a value from a stored record. -/
def read? (json : Json) : Option Value :=
  (Tree.read? json).pmap Value.mk fun _ read => Tree.ordered_of_read? json read

/-- Read a value from text; every member of an object has to be a value, also one
that a later member of the same name replaces. -/
def ofText? (text : String) : Option Value :=
  (Json.readSelected? .whole text).bind read?

end Value

end ControlLoop
