import ControlLoop.Proofs.Matching
import ControlLoop.Proofs.Readers

/-!
# Values as JSON

A value is written as a datum that is converted back to the same value, and a datum that has
a value is the one that is written for it.  The only data without a value are those that hold
a `null`, a number that is no integer or an integer beyond 64 bits, at any depth.

Two data are told apart by the order of the members in an object, so all this is about data
whose objects are in key order, as they are when they have been read from a text or written
for a value.

Main statement: `Value.converts_losslessly`.
-/

namespace ControlLoop

namespace Json

/-! ## Data within data -/

/-- A datum is a part of another one, at any depth. -/
inductive Contains : Json → Json → Prop where
  | self (json : Json) : Contains json json
  | item {items : List Json} {item part : Json} :
      item ∈ items → Contains item part → Contains (.array items) part
  | member {members : List (String × Json)} {key : String} {value part : Json} :
      (key, value) ∈ members → Contains value part → Contains (.object members) part

/-- Every object in a datum, at any depth, is in key order and repeats no key. -/
def Ordered (json : Json) : Prop :=
  ∀ members, json.Contains (.object members) → (members.map Prod.fst).Pairwise (· < ·)

/-- A datum that no value is written as: `null`, a number that is no integer, or an integer
beyond 64 bits. -/
def IsForeign : Json → Prop
  | .null => True
  | .decimal _ => True
  | .integer value => value < -2 ^ 63 ∨ 2 ^ 63 ≤ value
  | _ => False

section

variable {items : List Json} {members : List (String × Json)}

theorem ordered_array_iff : (array items).Ordered ↔ ∀ item ∈ items, item.Ordered := by
  constructor
  · intro ordered item isItem members part
    exact ordered members (.item isItem part)
  · intro each members part
    cases part with
    | item isItem part => exact each _ isItem members part

theorem ordered_object_iff :
    (object members).Ordered ↔
      (members.map Prod.fst).Pairwise (· < ·) ∧ ∀ member ∈ members, member.2.Ordered := by
  constructor
  · intro ordered
    refine ⟨ordered members (.self _), ?_⟩
    rintro ⟨key, value⟩ isMember others part
    exact ordered others (.member isMember part)
  · rintro ⟨sorted, each⟩ others part
    cases part with
    | self => exact sorted
    | member isMember part => exact each _ isMember others part

/-- A datum holds a part of a kind if it is one itself, or something in it holds one. -/
theorem exists_contains_iff {kind : Json → Prop} {json : Json} :
    (∃ part, json.Contains part ∧ kind part) ↔
      kind json ∨
        match json with
        | .array items => ∃ item ∈ items, ∃ part, item.Contains part ∧ kind part
        | .object members => ∃ member ∈ members, ∃ part, member.2.Contains part ∧ kind part
        | _ => False := by
  constructor
  · rintro ⟨part, contains, isKind⟩
    cases contains with
    | self => exact .inl isKind
    | item isItem contains => exact .inr ⟨_, isItem, part, contains, isKind⟩
    | member isMember contains => exact .inr ⟨_, isMember, part, contains, isKind⟩
  · rintro (isKind | within)
    · exact ⟨json, .self json, isKind⟩
    · cases json with
      | array items =>
          obtain ⟨item, isItem, part, contains, isKind⟩ := within
          exact ⟨part, .item isItem contains, isKind⟩
      | object members =>
          obtain ⟨member, isMember, part, contains, isKind⟩ := within
          exact ⟨part, .member isMember contains, isKind⟩
      | _ => exact within.elim

end

/-! ## Data that are read -/

namespace Document

theorem ordered_collect {members : List (String × Json)}
    (each : ∀ member ∈ members, member.2.Ordered) : (collect members).Ordered :=
  ordered_object_iff.2 ⟨(KeyMap.ofList members).sorted, fun member isMember =>
    each member (KeyMap.mem_of_mem_ofList isMember)⟩

mutual

theorem ordered_of_decode? : (document : Document) → {depth : Nat} → {json : Json} →
    decode? collect depth document = some json → json.Ordered
  | .null, _, _, decoded => by
      cases decoded
      nofun
  | .bool _, _, _, decoded => by
      cases decoded
      nofun
  | .number _ _, _, _, decoded => by
      rw [decode?] at decoded
      split at decoded
      next =>
        cases decoded
        nofun
      next =>
        split at decoded <;> cases decoded
        nofun
  | .string _, _, _, decoded => by
      obtain ⟨_, -, rfl⟩ := Option.map_eq_some_iff.1 decoded
      nofun
  | .array items, depth, _, decoded => by
      cases depth with
      | zero => cases decoded
      | succ depth =>
          obtain ⟨_, all, rfl⟩ := Option.map_eq_some_iff.1 decoded
          exact ordered_array_iff.2 (ordered_of_decodeItems? items all)
  | .object members, depth, _, decoded => by
      cases depth with
      | zero => cases decoded
      | succ depth =>
          obtain ⟨_, all, rfl⟩ := Option.map_eq_some_iff.1 decoded
          exact ordered_collect (ordered_of_decodeMembers? members all)

theorem ordered_of_decodeItems? : (items : List Document) → {depth : Nat} →
    {data : List Json} → decodeItems? collect depth items = some data →
    ∀ json ∈ data, json.Ordered
  | [], _, _, decoded => by
      cases decoded
      nofun
  | item :: items, _, _, decoded => by
      rw [decodeItems?] at decoded
      split at decoded
      next first rest =>
        cases decoded
        exact List.forall_mem_cons.2
          ⟨ordered_of_decode? item first, ordered_of_decodeItems? items rest⟩
      next => cases decoded

theorem ordered_of_decodeMembers? : (members : List (Option String × Document)) →
    {depth : Nat} → {data : List (String × Json)} →
    decodeMembers? collect depth members = some data → ∀ member ∈ data, member.2.Ordered
  | [], _, _, decoded => by
      cases decoded
      nofun
  | (_, value) :: members, _, _, decoded => by
      simp only [decodeMembers?] at decoded
      split at decoded
      next first rest =>
        cases decoded
        exact List.forall_mem_cons.2
          ⟨ordered_of_decode? value first, ordered_of_decodeMembers? members rest⟩
      next => cases decoded

end

end Document

/-- A text is read as a datum whose objects are in key order. -/
theorem ordered_of_ofText? {text : String} {json : Json} (read : ofText? text = some json) :
    json.Ordered := by
  obtain ⟨document, -, decoded⟩ := Option.bind_eq_some_iff.1 read
  exact Document.ordered_of_decode? document decoded

end Json

/-! ## Writing and converting -/

/-- If each item is written back from its result, so are all of a list. -/
theorem map_of_mapM {α β : Type} {read? : α → Option β} {write : β → α} {items : List α}
    {results : List β} (all : items.mapM read? = some results)
    (back : ∀ item ∈ items, ∀ result, read? item = some result → write result = item) :
    results.map write = items := by
  obtain ⟨each, rfl⟩ := Json.mapM_eq_some_iff.1 all
  rw [List.map_filterMap]
  refine (List.filterMap_congr fun item isItem => ?_).trans List.filterMap_some
  obtain ⟨result, read⟩ := Option.isSome_iff_exists.1 (each item isItem)
  rw [read, Option.map_some, back item isItem result read]

namespace Tree

theorem int64?_eq_some_iff {value : Int} {held : Int64} :
    int64? value = some held ↔ held.toInt = value := by
  constructor
  · intro inRange
    rw [int64?, Option.ite_none_right_eq_some] at inRange
    obtain ⟨⟨low, high⟩, same⟩ := inRange
    rw [← Option.some.inj same]
    exact Int64.toInt_ofInt_of_le low (Int.lt_of_le_of_lt high (by decide))
  · rintro rfl
    exact int64?_toInt held

theorem int64?_eq_none_iff {value : Int} :
    int64? value = none ↔ value < -2 ^ 63 ∨ 2 ^ 63 ≤ value := by
  have least : Int64.minValue.toInt = -2 ^ 63 := by decide
  have greatest : Int64.maxValue.toInt = 2 ^ 63 - 1 := by decide
  rw [int64?, least, greatest]
  simp only [ite_eq_right_iff, reduceCtorEq, imp_false]
  omega

theorem itemsToJson_eq_map (items : List Tree) : itemsToJson items = items.map toJson := by
  induction items with
  | nil => rfl
  | cons item items ih => rw [itemsToJson, ih, List.map_cons]

theorem entriesToJson_eq_map (entries : List (String × Tree)) :
    entriesToJson entries = entries.map fun entry => (entry.1, entry.2.toJson) := by
  induction entries with
  | nil => rfl
  | cons entry entries ih =>
      obtain ⟨key, value⟩ := entry
      rw [entriesToJson, ih, List.map_cons]

/-- A datum that is converted is the one that is written for the result. -/
theorem toJson_of_ofJson? {json : Json} (ordered : json.Ordered) {tree : Tree}
    (converted : ofJson? json = some tree) : tree.toJson = json := by
  induction json using Json.induct generalizing tree with
  | null => cases converted
  | bool held =>
      cases converted
      rfl
  | integer value =>
      obtain ⟨held, inRange, rfl⟩ := Option.map_eq_some_iff.1 converted
      rw [toJson, int64?_eq_some_iff.1 inRange]
  | decimal literal => cases converted
  | string held =>
      cases converted
      rfl
  | array items ih =>
      obtain ⟨trees, all, rfl⟩ := Option.map_eq_some_iff.1 converted
      rw [ofJsonItems?_eq_mapM] at all
      rw [toJson, itemsToJson_eq_map, map_of_mapM all]
      intro item isItem tree
      exact ih item isItem (Json.ordered_array_iff.1 ordered item isItem)
  | object members ih =>
      obtain ⟨sorted, each⟩ := Json.ordered_object_iff.1 ordered
      obtain ⟨entries, all, rfl⟩ := Option.map_eq_some_iff.1 converted
      rw [ofJsonMembers?_eq_mapM] at all
      -- the members keep their keys, so the map that is made of them does not sort them anew
      have inOrder : (entries.map Prod.fst).Pairwise (· < ·) := by
        rw [← (Json.mapM_eq_some_iff.1 all).2]
        exact KeyMap.sorted_filterMap_imageOf? sorted
      rw [toJson, KeyMap.entries_ofList inOrder, entriesToJson_eq_map, map_of_mapM all]
      rintro ⟨key, value⟩ isMember ⟨other, tree⟩ isImage
      obtain ⟨rfl, converted⟩ := KeyMap.imageOf?_eq_some_iff.1 isImage
      rw [ih _ isMember (each _ isMember) converted]

/-- A datum is not converted if it holds one that is foreign. -/
theorem ofJson?_eq_none_iff (json : Json) :
    ofJson? json = none ↔ ∃ part, json.Contains part ∧ part.IsForeign := by
  induction json using Json.induct with
  | null => simp [Json.exists_contains_iff, ofJson?, Json.IsForeign]
  | bool held => simp [Json.exists_contains_iff, ofJson?, Json.IsForeign]
  | integer value =>
      rw [Json.exists_contains_iff, or_false, ofJson?, Option.map_eq_none_iff,
        int64?_eq_none_iff, Json.IsForeign]
  | decimal literal => simp [Json.exists_contains_iff, ofJson?, Json.IsForeign]
  | string held => simp [Json.exists_contains_iff, ofJson?, Json.IsForeign]
  | array items ih =>
      have native : ¬(Json.array items).IsForeign := id
      rw [Json.exists_contains_iff, or_iff_right native, ofJson?, Option.map_eq_none_iff,
        ofJsonItems?_eq_mapM, Json.mapM_eq_none_iff]
      exact exists_congr fun item => and_congr_right (ih item)
  | object members ih =>
      have native : ¬(Json.object members).IsForeign := id
      rw [Json.exists_contains_iff, or_iff_right native, ofJson?, Option.map_eq_none_iff,
        ofJsonMembers?_eq_mapM, Json.mapM_eq_none_iff]
      refine exists_congr fun member => and_congr_right fun isMember => ?_
      rw [KeyMap.imageOf?, Option.map_eq_none_iff, ih member isMember]

end Tree

namespace Value

/-- A datum has a value exactly when it has a tree, and the value has that tree. -/
theorem ofJson?_eq_some_iff {json : Json} {value : Value} :
    ofJson? json = some value ↔ Tree.ofJson? json = some value.tree := by
  rw [ofJson?, Option.pmap_eq_some_iff]
  constructor
  · rintro ⟨tree, ordered, converted, rfl⟩
    exact converted
  · intro converted
    exact ⟨value.tree, value.ordered, converted, rfl⟩

theorem ofJson?_eq_none_iff {json : Json} : ofJson? json = none ↔ Tree.ofJson? json = none := by
  rw [ofJson?, Option.pmap_eq_none_iff]

theorem toJson_list (items : List Value) : (list items).toJson = .array (items.map toJson) := by
  rw [toJson, tree_list, Tree.toJson, Tree.itemsToJson_eq_map, List.map_map]
  rfl

theorem toJson_map (entries : KeyMap Value) :
    (map entries).toJson = .object (entries.map toJson).entries := by
  rw [toJson, tree_map, Tree.toJson, Tree.entriesToJson_eq_map]
  simp [KeyMap.map, toJson]

theorem ordered_toJson (value : Value) : value.toJson.Ordered := by
  induction value using induct with
  | bool held => nofun
  | int held => nofun
  | string held => nofun
  | list items ih =>
      rw [toJson_list, Json.ordered_array_iff]
      exact List.forall_mem_map.2 ih
  | map entries ih =>
      rw [toJson_map, Json.ordered_object_iff]
      refine ⟨(entries.map toJson).sorted, List.forall_mem_map.2 ?_⟩
      rintro ⟨key, value⟩ member
      exact ih key value (KeyMap.get?_eq_some_iff.2 member)

/-- Values are written and converted without loss, both ways, and a datum has no value only
for a part that is foreign. -/
theorem converts_losslessly :
    (∀ value : Value, value.toJson.Ordered ∧ ofJson? value.toJson = some value) ∧
    (∀ text json, Json.ofText? text = some json → json.Ordered) ∧
    (∀ json value, json.Ordered → ofJson? json = some value → value.toJson = json) ∧
    (∀ json, ofJson? json = none ↔ ∃ part, json.Contains part ∧ part.IsForeign) := by
  refine ⟨?_, fun _ _ => Json.ordered_of_ofText?, ?_, ?_⟩
  · intro value
    refine ⟨value.ordered_toJson, ?_⟩
    rw [← read?_eq_ofJson?, read?_toJson]
  · intro json value ordered converted
    exact Tree.toJson_of_ofJson? ordered (ofJson?_eq_some_iff.1 converted)
  · intro json
    rw [ofJson?_eq_none_iff, Tree.ofJson?_eq_none_iff]

end Value

namespace Simulation

/-- The least and the greatest integer, in a list in a map. -/
def limits : Json :=
  .object [("name", .string "disk"),
    ("sizes", .array [.integer (-2 ^ 63), .integer (2 ^ 63 - 1)])]

theorem limits_convert :
    limits.Ordered ∧ (Value.ofJson? limits).isSome = true ∧
      ∀ value, Value.ofJson? limits = some value → value.toJson = limits := by
  have sizes : (Json.array [.integer (-2 ^ 63), .integer (2 ^ 63 - 1)]).Ordered :=
    Json.ordered_array_iff.2 (List.forall_mem_cons.2 ⟨nofun, List.forall_mem_singleton.2 nofun⟩)
  have ordered : limits.Ordered :=
    Json.ordered_object_iff.2
      ⟨by decide, List.forall_mem_cons.2 ⟨nofun, List.forall_mem_singleton.2 sizes⟩⟩
  refine ⟨ordered, by decide +kernel, ?_⟩
  intro value
  exact Value.converts_losslessly.2.2.1 limits value ordered

end Simulation

end ControlLoop
