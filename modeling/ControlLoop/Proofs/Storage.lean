import ControlLoop.Proofs.Codec
import ControlLoop.Proofs.Timestamp
import ControlLoop.Record

/-!
# Stored records

What is written of a record is read back as that record: attribute values of every
kind and depth, tags, the status, the state with its phase, the taint, and a time if
its text is read back.  The reader of values tries the kinds in turn, and no kind
is written so that an earlier one would take it.  Objects may be rearranged in
between, because their members are found by name.
-/

namespace ControlLoop

/-! ## Maps -/

namespace Json

variable {α : Type} {read? : Json → Option α} {write : α → Json}

/-- A map is read back if its values are. -/
theorem keyMap?_ofKeyMap (inverse : ∀ value, read? (write value) = some value)
    (map : KeyMap α) : keyMap? read? (ofKeyMap write map) = some map := by
  have entries : (map.entries.map fun entry => (entry.1, write entry.2)).mapM
      (fun (member : String × Json) =>
        (read? member.2).map fun value => (member.1, value)) = some map.entries := by
    rw [List.mapM_map]
    simp only [Function.comp_def, inverse, Option.map_some]
    exact List.mapM_pure.trans (congrArg some (List.map_id _))
  simp only [keyMap?, ofKeyMap, object?, Option.bind_some, entries, Option.map_some,
    KeyMap.ofList_entries]

/-! ## Rearranged objects -/

/-- An object with the same members, possibly in another order. -/
inductive Rearranges : Json → Json → Prop where
  | object {members others : List (String × Json)} :
      members.Perm others → Rearranges (.object members) (.object others)

/-- If no name occurs twice, a name stands for the member that has it. -/
theorem lookup_eq_some_iff {members : List (String × Json)}
    (distinct : (members.map Prod.fst).Nodup) {name : String} {json : Json} :
    members.lookup name = some json ↔ (name, json) ∈ members := by
  rw [← KeyMap.lookup_eq]
  exact KeyMap.lookup_eq_some_iff distinct

theorem lookup_eq_of_perm {members others : List (String × Json)}
    (perm : members.Perm others) (distinct : (others.map Prod.fst).Nodup)
    (name : String) : members.lookup name = others.lookup name := by
  have distinct' := (perm.map Prod.fst).nodup_iff.2 distinct
  apply Option.ext
  intro json
  rw [lookup_eq_some_iff distinct', lookup_eq_some_iff distinct, perm.mem_iff]

end Json

/-! ## Values -/

namespace Tree

@[simp] theorem int64?_toInt (value : Int64) : int64? value.toInt = some value := by
  rw [int64?, if_pos ⟨Int64.le_toInt value, Int64.toInt_le value⟩, Int64.ofInt_toInt]

mutual

theorem read?_toJson : (tree : Tree) → tree.Ordered → read? tree.toJson = some tree
  | .bool _, _ => by simp [toJson, read?, Json.bool?]
  | .int _, _ => by simp [toJson, read?, Json.bool?, Json.integer?]
  | .string _, _ => by simp [toJson, read?, Json.bool?, Json.integer?, Json.string?]
  | .list items, ordered => by
      simp [toJson, read?, Json.bool?, Json.integer?, Json.string?,
        readItems?_itemsToJson items ordered]
  | .map entries, ordered => by
      simp [toJson, read?, Json.bool?, Json.integer?, Json.string?,
        readMembers?_entriesToJson entries ordered.2, KeyMap.entries_ofList ordered.1]

theorem readItems?_itemsToJson : (items : List Tree) → OrderedItems items →
    readItems? (itemsToJson items) = some items
  | [], _ => rfl
  | item :: items, ordered => by
      simp [itemsToJson, readItems?, read?_toJson item ordered.1,
        readItems?_itemsToJson items ordered.2]

theorem readMembers?_entriesToJson : (entries : List (String × Tree)) →
    OrderedEntries entries → readMembers? (entriesToJson entries) = some entries
  | [], _ => rfl
  | (_, value) :: entries, ordered => by
      simp [entriesToJson, readMembers?, read?_toJson value ordered.1,
        readMembers?_entriesToJson entries ordered.2]

end

end Tree

namespace Value

theorem read?_toJson (value : Value) : read? value.toJson = some value :=
  Option.pmap_eq_some_iff.2
    ⟨value.tree, value.ordered, Tree.read?_toJson value.tree value.ordered, rfl⟩

end Value

/-! ## The parts of a record -/

theorem AttributeMap.read?_toJson (attributes : AttributeMap) :
    AttributeMap.read? attributes.toJson = some attributes :=
  Json.keyMap?_ofKeyMap Value.read?_toJson attributes

theorem TagSet.ofJson?_toJson (tags : TagSet) : TagSet.ofJson? tags.toJson = some tags :=
  have inverse (text : String) : Json.string? (.string text) = some text := rfl
  Json.keyMap?_ofKeyMap inverse tags

theorem DesiredState.ofJson?_toJson (desired : DesiredState) :
    DesiredState.ofJson? desired.toJson = some desired := by
  simp [DesiredState.ofJson?, DesiredState.toJson, Json.fields?, Json.defaulted,
    List.lookup_cons, AttributeMap.read?_toJson, TagSet.ofJson?_toJson]

theorem ObservedState.ofJson?_toJson (observed : ObservedState) :
    ObservedState.ofJson? observed.toJson = some observed := by
  obtain ⟨attributes, status, tags⟩ := observed
  cases status <;>
    simp [ObservedState.ofJson?, ObservedState.toJson, Json.fields?, Json.defaulted,
      Json.optional, Json.string?, List.lookup_cons, AttributeMap.read?_toJson,
      TagSet.ofJson?_toJson]

theorem RecordState.ofJson?_toJson (state : RecordState) :
    RecordState.ofJson? state.toJson = some state := by
  cases state with
  | polling phase => cases phase <;> rfl
  | _ => rfl

namespace Record

theorem identifier?_encoded (id : Identifier) :
    identifier? (.string id.encoded) = some id := by
  simp [identifier?, Json.string?, Identifier.parse_eq_ok_iff.2 rfl, Except.toOption]

/-- The members of a stored record. -/
def members (record : Record) : List (String × Json) :=
  (record.localId.map fun identifier =>
    ("local_id", Json.string identifier.encoded)).toList ++
  [("desired", record.desired.toJson),
    ("last_observed", record.lastObserved.toJson),
    ("tags", record.tags.toJson),
    ("state", record.state.toJson),
    ("tainted", .bool record.tainted)] ++
  (record.updatedAt.map fun time => ("updated_at", time.toJson)).toList

theorem distinct_members (record : Record) : (record.members.map Prod.fst).Nodup := by
  obtain ⟨localId, _, _, _, _, _, updatedAt⟩ := record
  cases localId <;> cases updatedAt <;> simp [members]

/-- A record is read from its members, whatever their order. -/
theorem ofJson?_of_perm {members others : List (String × Json)}
    (perm : members.Perm others) (distinct : (others.map Prod.fst).Nodup) :
    ofJson? (.object members) = ofJson? (.object others) := by
  have lookups (name : String) : members.lookup name = others.lookup name :=
    Json.lookup_eq_of_perm perm distinct name
  simp only [ofJson?, Json.fields?, Json.optional, Json.defaulted, bind, Option.bind_some,
    lookups]

/-- A record is read from its members as they were written. -/
theorem ofJson?_members {record : Record}
    (dated : ∀ time, record.updatedAt = some time →
      Timestamp.ofText? time.text = some time) :
    ofJson? (.object record.members) = some record := by
  obtain ⟨localId, desired, lastObserved, tags, state, tainted, updatedAt⟩ := record
  have timed (time : Timestamp) (updated : updatedAt = some time) :
      Timestamp.ofJson? (.string time.text) = some time := by
    rw [Timestamp.ofJson?, Json.string?, Option.bind_some, dated time updated]
  cases localId <;> cases updatedAt <;>
    simp [ofJson?, members, Json.fields?, Json.optional, Json.defaulted, List.lookup_cons,
      identifier?_encoded, DesiredState.ofJson?_toJson, ObservedState.ofJson?_toJson,
      TagSet.ofJson?_toJson, RecordState.ofJson?_toJson, Json.bool?,
      Timestamp.toJson, timed]

/-- A stored record is read back unchanged, also from rearranged members.  That its
time is read back holds of every time that can be held: see `Timestamp.ofText?_text`. -/
theorem reads_back (record : Record)
    (dated : ∀ time, record.updatedAt = some time →
      Timestamp.ofText? time.text = some time) :
    ofJson? record.toJson = some record ∧
      ∀ stored, Json.Rearranges stored record.toJson → ofJson? stored = some record := by
  have asWritten : ofJson? (.object record.members) = some record := ofJson?_members dated
  constructor
  · exact asWritten
  · intro stored rearranged
    cases rearranged with
    | object perm => exact (ofJson?_of_perm perm record.distinct_members).trans asWritten

end Record

namespace Simulation

/-- A record left behind in the middle of an update, with attributes of every kind. -/
def halfUpdated : Record where
  localId := some ⟨["z1", "v7"], by decide, by decide⟩
  desired := {
    attributes := .ofList [
      ("Size", .int (-1)),
      ("Rules", .list [.map (.ofList [("Port", .int 80), ("Open", .bool true)]), .list []])]
    tags := .ofList [("team", "a"), ("env", "prod")] }
  lastObserved := { attributes := .ofList [("Size", .int 7)], status := some "" }
  tags := .ofList [("team", "b")]
  state := .polling .update
  tainted := true
  updatedAt := some ⟨-1, 2, 28, 23, 59, 60, 120000000⟩

theorem reads_back_halfUpdated :
    (∀ time, halfUpdated.updatedAt = some time → Timestamp.ofText? time.text = some time) ∧
      Record.ofJson? halfUpdated.toJson = some halfUpdated ∧
      Record.ofJson? (.object halfUpdated.members.reverse) = some halfUpdated := by
  have dated : ∀ time, halfUpdated.updatedAt = some time →
      Timestamp.ofText? time.text = some time := by
    intro time updated
    cases updated
    exact Timestamp.ofText?_text rfl
  have restored := Record.reads_back halfUpdated dated
  exact ⟨dated, restored.1, restored.2 _ (.object (List.reverse_perm _))⟩

end Simulation

end ControlLoop
