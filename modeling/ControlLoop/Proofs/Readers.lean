import ControlLoop.Proofs.Storage

/-!
# The two readers of attributes

Values are read in two ways: data of stored records by trying the kinds of values in turn,
foreign data by the kind of the datum.  Both read the same data as the same values.

An object of foreign data may hold members that have no value.  `AttributeMap.Divides` says
how it is divided into attributes, dropped names and `null` members; the reader of stored
records reads exactly the objects of which nothing is left out, as the same attributes.

Main statement: `AttributeMap.readers_agree`.
-/

namespace ControlLoop

/-! ## Images of entries -/

namespace KeyMap

variable {α β : Type} {image? : α → Option β}

/-- An entry with the image of its value, if the value has one. -/
def imageOf? (image? : α → Option β) (entry : String × α) : Option (String × β) :=
  (image? entry.2).map fun value => (entry.1, value)

theorem imageOf?_eq_some_iff {entry : String × α} {key : String} {value : β} :
    imageOf? image? entry = some (key, value) ↔ entry.1 = key ∧ image? entry.2 = some value := by
  rw [imageOf?, Option.map_eq_some_iff]
  simp only [Prod.mk.injEq]
  grind

theorem isSome_imageOf? {entry : String × α} :
    (imageOf? image? entry).isSome = (image? entry.2).isSome :=
  Option.isSome_map

theorem sorted_filterMap_imageOf? {entries : List (String × α)}
    (sorted : (entries.map Prod.fst).Pairwise (· < ·)) :
    ((entries.filterMap (imageOf? image?)).map Prod.fst).Pairwise (· < ·) := by
  rw [List.pairwise_map, List.pairwise_filterMap]
  apply (List.pairwise_map.1 sorted).imp
  rintro entry other before ⟨key, value⟩ isImage ⟨key', value'⟩ isImage'
  rw [imageOf?_eq_some_iff] at isImage isImage'
  rwa [← isImage.1, ← isImage'.1]

/-- Of a map, those entries make a map that have an image. -/
theorem get?_ofList_filterMap (map : KeyMap α) (key : String) :
    (ofList (map.entries.filterMap (imageOf? image?))).get? key = (map.get? key).bind image? := by
  apply Option.ext
  intro value
  rw [get?_eq_some_iff, entries_ofList (sorted_filterMap_imageOf? map.sorted),
    List.mem_filterMap, Option.bind_eq_some_iff]
  simp only [get?_eq_some_iff, imageOf?_eq_some_iff]
  constructor
  · rintro ⟨⟨other, held⟩, member, rfl, isImage⟩
    exact ⟨held, member, isImage⟩
  · rintro ⟨held, member, isImage⟩
    exact ⟨(key, held), member, rfl, isImage⟩

end KeyMap

namespace Json

theorem isNull_eq_false_iff {json : Json} : json.isNull = false ↔ json ≠ .null := by
  cases json <;> simp [isNull]

/-! ## Reading all of a list -/

section

variable {α β : Type} {read? other? : α → Option β} {items : List α} {results : List β}

/-- All of a list is read when each of its items is. -/
theorem mapM_eq_some_iff :
    items.mapM read? = some results ↔
      (∀ item ∈ items, (read? item).isSome = true) ∧ items.filterMap read? = results := by
  induction items generalizing results with
  | nil => simp
  | cons item items ih =>
      rw [List.mapM_cons, List.forall_mem_cons]
      cases read : read? item with
      | none => simp
      | some result => simp [read, Option.bind_eq_some_iff, ih, and_assoc]

theorem mapM_eq_none_iff :
    items.mapM read? = none ↔ ∃ item ∈ items, read? item = none := by
  rw [Option.eq_none_iff_forall_ne_some]
  simp [mapM_eq_some_iff]

theorem mapM_congr (same : ∀ item ∈ items, read? item = other? item) :
    items.mapM read? = items.mapM other? := by
  induction items with
  | nil => rfl
  | cons item items ih =>
      rw [List.forall_mem_cons] at same
      rw [List.mapM_cons, List.mapM_cons, same.1, ih same.2]

end

/-! ## Induction -/

theorem sizeOf_lt_of_item {item : Json} {items : List Json} (isItem : item ∈ items) :
    sizeOf item < sizeOf (Json.array items) := by
  have smaller := List.sizeOf_lt_of_mem isItem
  rw [array.sizeOf_spec]
  omega

theorem sizeOf_lt_of_member {key : String} {value : Json} {members : List (String × Json)}
    (isMember : (key, value) ∈ members) : sizeOf value < sizeOf (Json.object members) := by
  have smaller := List.sizeOf_lt_of_mem isMember
  rw [Prod.mk.sizeOf_spec] at smaller
  rw [object.sizeOf_spec]
  omega

/-- What holds of scalars, and of arrays and objects when it holds of all that is in them,
holds of every datum. -/
theorem induct {motive : Json → Prop} (null : motive .null) (bool : ∀ held, motive (.bool held))
    (integer : ∀ held, motive (.integer held)) (decimal : ∀ literal, motive (.decimal literal))
    (string : ∀ held, motive (.string held))
    (array : ∀ items, (∀ item ∈ items, motive item) → motive (.array items))
    (object : ∀ members, (∀ member ∈ members, motive member.2) → motive (.object members)) :
    (json : Json) → motive json
  | .null => null
  | .bool held => bool held
  | .integer held => integer held
  | .decimal literal => decimal literal
  | .string held => string held
  | .array items => array items fun item _ =>
      induct null bool integer decimal string array object item
  | .object members => object members fun (_, value) _ =>
      induct null bool integer decimal string array object value
termination_by json => sizeOf json
decreasing_by
  · exact sizeOf_lt_of_item ‹_›
  · exact sizeOf_lt_of_member ‹_›

end Json

namespace Tree

theorem ofJsonItems?_eq_mapM (items : List Json) :
    ofJsonItems? items = items.mapM ofJson? := by
  induction items with
  | nil => rfl
  | cons item items ih =>
      rw [ofJsonItems?, List.mapM_cons, ih]
      cases ofJson? item <;> cases items.mapM ofJson? <;> rfl

theorem ofJsonMembers?_eq_mapM (members : List (String × Json)) :
    ofJsonMembers? members = members.mapM (KeyMap.imageOf? ofJson?) := by
  induction members with
  | nil => rfl
  | cons member members ih =>
      obtain ⟨key, value⟩ := member
      rw [ofJsonMembers?, List.mapM_cons, ih, KeyMap.imageOf?]
      cases ofJson? value <;> cases members.mapM (KeyMap.imageOf? ofJson?) <;> rfl

theorem readItems?_eq_mapM (items : List Json) : readItems? items = items.mapM read? := by
  induction items with
  | nil => rfl
  | cons item items ih =>
      rw [readItems?, List.mapM_cons, ih]
      cases read? item <;> cases items.mapM read? <;> rfl

theorem readMembers?_eq_mapM (members : List (String × Json)) :
    readMembers? members = members.mapM (KeyMap.imageOf? read?) := by
  induction members with
  | nil => rfl
  | cons member members ih =>
      obtain ⟨key, value⟩ := member
      rw [readMembers?, List.mapM_cons, ih, KeyMap.imageOf?]
      cases read? value <;> cases members.mapM (KeyMap.imageOf? read?) <;> rfl

/-- No kind that is tried earlier takes a datum of another kind. -/
theorem read?_eq_ofJson? (json : Json) : read? json = ofJson? json := by
  induction json using Json.induct with
  | null => rfl
  | bool held => rfl
  | integer held => simp [read?, ofJson?, Json.bool?, Json.integer?, Json.string?]
  | decimal literal => rfl
  | string held => rfl
  | array items ih =>
      have same : readItems? items = ofJsonItems? items := by
        rw [readItems?_eq_mapM, ofJsonItems?_eq_mapM]
        exact Json.mapM_congr ih
      simp [read?, ofJson?, Json.bool?, Json.integer?, Json.string?, same]
  | object members ih =>
      have same : readMembers? members = ofJsonMembers? members := by
        rw [readMembers?_eq_mapM, ofJsonMembers?_eq_mapM]
        apply Json.mapM_congr
        intro member isMember
        rw [KeyMap.imageOf?, KeyMap.imageOf?, ih member isMember]
      simp [read?, ofJson?, Json.bool?, Json.integer?, Json.string?, same]

end Tree

namespace Value

theorem read?_eq_ofJson? (json : Json) : read? json = ofJson? json := by
  simp only [read?, ofJson?, Tree.read?_eq_ofJson?]

end Value

/-! ## Objects -/

namespace AttributeMap

/-- How the members of an object are divided: into attributes, and the names of those that
have no value.  Those that are `null` are left out. -/
structure Divides (object : KeyMap Json) (attributes : AttributeMap) (dropped : List String) :
    Prop where
  /-- An attribute is a member with its value. -/
  kept : ∀ key, attributes.get? key = (object.get? key).bind Value.ofJson?
  /-- A name is dropped for a member that is not `null` and has no value. -/
  lost : ∀ key, key ∈ dropped ↔
    ∃ json, object.get? key = some json ∧ json ≠ .null ∧ Value.ofJson? json = none
  /-- Every other member is either an attribute or dropped. -/
  once : ∀ key json, object.get? key = some json → json ≠ .null →
    (attributes.contains key = true ↔ key ∉ dropped)
  /-- No name is dropped twice. -/
  sorted : dropped.Pairwise (· < ·)

variable (object : KeyMap Json)

theorem get?_ofJsonObject (key : String) :
    (ofJsonObject object).1.get? key = (object.get? key).bind Value.ofJson? :=
  object.get?_ofList_filterMap key

theorem mem_dropped_iff {key : String} :
    key ∈ (ofJsonObject object).2 ↔
      ∃ json, object.get? key = some json ∧ json ≠ .null ∧ Value.ofJson? json = none := by
  simp only [ofJsonObject, List.mem_map, List.mem_filter, Bool.and_eq_true,
    Option.isNone_iff_eq_none, Bool.not_eq_true', Json.isNull_eq_false_iff,
    KeyMap.get?_eq_some_iff]
  constructor
  · rintro ⟨⟨_, json⟩, ⟨member, refused, notNull⟩, rfl⟩
    exact ⟨json, member, notNull, refused⟩
  · rintro ⟨json, member, notNull, refused⟩
    exact ⟨(key, json), ⟨member, refused, notNull⟩, rfl⟩

theorem divides_ofJsonObject :
    Divides object (ofJsonObject object).1 (ofJsonObject object).2 where
  kept := get?_ofJsonObject object
  lost _ := mem_dropped_iff object
  once := by
    intro key json held notNull
    rw [KeyMap.contains, get?_ofJsonObject, mem_dropped_iff, held, Option.bind_some]
    cases read : Value.ofJson? json <;> simp [notNull, read]
  sorted := object.sorted.sublist (List.Sublist.map _ List.filter_sublist)

/-- Stored attributes are read when every member has a value. -/
theorem read?_eq_some_iff {attributes : AttributeMap} :
    read? (.object object.entries) = some attributes ↔
      (∀ key json, object.get? key = some json → (Value.ofJson? json).isSome = true) ∧
        (ofJsonObject object).1 = attributes := by
  have asList : read? (.object object.entries) =
      (object.entries.mapM (KeyMap.imageOf? Value.read?)).map KeyMap.ofList := rfl
  rw [asList, funext Value.read?_eq_ofJson?, Option.map_eq_some_iff]
  simp only [Json.mapM_eq_some_iff, KeyMap.isSome_imageOf?, and_assoc, exists_and_left,
    exists_eq_left', KeyMap.get?_eq_some_iff, Prod.forall]
  rfl

/-- A member has no value if it is dropped or `null`. -/
theorem all_representable_iff :
    (∀ key json, object.get? key = some json → (Value.ofJson? json).isSome = true) ↔
      (ofJsonObject object).2 = [] ∧ ∀ key, object.get? key ≠ some .null := by
  rw [List.eq_nil_iff_forall_not_mem]
  simp only [mem_dropped_iff, Option.isSome_iff_ne_none]
  constructor
  · intro all
    constructor
    · rintro key ⟨json, held, -, refused⟩
      exact all key json held refused
    · intro key held
      exact all key .null held rfl
  · rintro ⟨nothing, notNull⟩ key json held refused
    exact nothing key ⟨json, held, fun isNull => notNull key (isNull ▸ held), refused⟩

/-- Every datum is read alike by both readers.  An object is divided so that nothing but
`null` is left out, and is read as stored attributes when no name is dropped and nothing is
`null`, as the same attributes. -/
theorem readers_agree :
    (∀ json, Value.read? json = Value.ofJson? json) ∧
    ∀ object, Divides object (ofJsonObject object).1 (ofJsonObject object).2 ∧
      ∀ attributes, read? (.object object.entries) = some attributes ↔
        ((ofJsonObject object).2 = [] ∧ ∀ key, object.get? key ≠ some .null) ∧
          (ofJsonObject object).1 = attributes := by
  refine ⟨Value.read?_eq_ofJson?, fun object => ⟨divides_ofJsonObject object, ?_⟩⟩
  intro attributes
  rw [read?_eq_some_iff, all_representable_iff]

example :
    (ofJsonObject (.ofList [("name", .string "db"), ("ratio", .decimal "0.5"),
      ("serial", .integer (2 ^ 64 - 1)), ("weights", .array [.integer 1, .decimal "1.5"]),
      ("comment", .null)])).2 = ["ratio", "serial", "weights"] := by
  decide +kernel

end AttributeMap

end ControlLoop
