import ControlLoop.Simulation.World
import Mathlib.Data.List.Forall2

/-!
# Listed tags

The tags of a resource are listed as entries, each of which spells a key and a value.  They
are read in their order, so that the last entry of a key counts; an answer without a list
stands for no tags.  The list with which tags are set is such a list, and it is read as these
tags.

Main statement: `TagClient.describe_understands`.
-/

namespace ControlLoop

/-! ## The last pair of a key -/

namespace KeyMap

variable {α : Type}

/-- Each key is bound to the value of its last pair. -/
def BindsLast (map : KeyMap α) (pairs : List (String × α)) : Prop :=
  ∀ key value, map.get? key = some value ↔
    ∃ before after, pairs = before ++ (key, value) :: after ∧ ∀ later ∈ after, key ≠ later.1

/-- What is found from the end is the last pair of a key. -/
theorem lookup_reverse_eq_some_iff {key : String} {value : α} {pairs : List (String × α)} :
    lookup key pairs.reverse = some value ↔
      ∃ before after, pairs = before ++ (key, value) :: after ∧
        ∀ later ∈ after, key ≠ later.1 := by
  rw [lookup_eq, List.lookup_eq_some_iff]
  simp only [bne_iff_ne, List.reverse_eq_append_iff, List.reverse_cons, List.append_assoc,
    List.singleton_append]
  constructor
  · rintro ⟨after, before, split, last⟩
    exact ⟨before.reverse, after.reverse, split, by simpa only [List.mem_reverse] using last⟩
  · rintro ⟨before, after, split, last⟩
    exact ⟨after.reverse, before.reverse, by simpa only [List.reverse_reverse] using split,
      by simpa only [List.mem_reverse] using last⟩

theorem bindsLast_ofList (pairs : List (String × α)) : (ofList pairs).BindsLast pairs := by
  intro key value
  rw [get?_ofList, lookup_reverse_eq_some_iff]

end KeyMap

/-! ## Fields of records -/

namespace Json

theorem string?_eq_some_iff {json : Json} {text : String} :
    json.string? = some text ↔ json = .string text := by
  cases json <;> simp [string?]

theorem required_string?_eq_some_iff {fields : List (String × Json)} {name text : String} :
    required fields name string? = some text ↔ fields.lookup name = some (.string text) := by
  rw [required, Option.bind_eq_some_iff]
  simp only [string?_eq_some_iff, exists_eq_right]

theorem array?_eq_some_iff {json : Json} {items : List Json} :
    json.array? = some items ↔ json = .array items := by
  cases json <;> simp [array?]

theorem member?_eq_some_iff {json held : Json} {name : String} :
    json.member? name = some held ↔
      ∃ members, json = .object members ∧ members.lookup name = some held := by
  cases json <;> simp [member?, object?]

theorem defaulted_eq_some_iff {α : Type} {fields : List (String × Json)} {name : String}
    {read? : Json → Option α} {default value : α} :
    defaulted fields name read? default = some value ↔
      (fields.lookup name = none ∧ default = value) ∨
        ∃ json, fields.lookup name = some json ∧ read? json = some value := by
  cases found : fields.lookup name <;> simp [defaulted, found]

theorem mapM_eq_some_iff_forall₂ {α β : Type} {read? : α → Option β} {items : List α}
    {results : List β} :
    items.mapM read? = some results ↔
      List.Forall₂ (fun item result => read? item = some result) items results := by
  induction items generalizing results with
  | nil => simp [eq_comm]
  | cons item items ih =>
      simp only [List.mapM_cons, bind, Option.bind_eq_some_iff, ih, pure, Option.some.injEq,
        List.forall₂_cons_left_iff, @eq_comm _ results, exists_and_left]

end Json

namespace TagCall

variable {item answer : Json} {pairs : List (String × String)}

/-! ## Entries -/

/-- An entry that spells a tag: an object with its key and its value, whatever else is in it,
or the two of them in a row. -/
def Spells (item : Json) (tag : String × String) : Prop :=
  (item.member? "TagKey" = some (.string tag.1) ∧
    item.member? "TagValue" = some (.string tag.2)) ∨
  item = .array [.string tag.1, .string tag.2]

theorem pair?_eq_some_iff {tag : String × String} :
    pair? item = some tag ↔ Spells item tag := by
  obtain ⟨key, value⟩ := tag
  have asFields : pair? item = some (key, value) ↔
      ∃ fields, item.fields? ["TagKey", "TagValue"] = some fields ∧
        fields.lookup "TagKey" = some (.string key) ∧
        fields.lookup "TagValue" = some (.string value) := by
    simp [pair?, Option.bind_eq_some_iff, Json.required_string?_eq_some_iff]
  rw [asFields, Spells]
  cases item with
  | object members => simp [Json.fields?, Json.member?, Json.object?]
  | array items =>
    -- By position, only two items give both fields and no more than these.
    rcases items with _ | ⟨first, _ | ⟨second, _ | ⟨third, rest⟩⟩⟩ <;>
      simp [Json.fields?, Json.member?, Json.object?, List.lookup_cons]
  | _ => simp [Json.fields?, Json.member?, Json.object?]

/-- Entries are read when each of them spells a tag. -/
theorem list?_eq_some_iff {json : Json} :
    Json.list? pair? json = some pairs ↔
      ∃ items, json = .array items ∧ List.Forall₂ Spells items pairs := by
  rw [Json.list?, Option.bind_eq_some_iff]
  simp only [Json.array?_eq_some_iff, Json.mapM_eq_some_iff_forall₂, pair?_eq_some_iff]

/-! ## Answers -/

/-- The tags that an answer lists, in the order of their entries.  The list is the member for
it, or stands alone in a row; where it is missing, nothing is listed. -/
inductive Lists : Json → List (String × String) → Prop where
  | member {answer : Json} {items : List Json} {pairs : List (String × String)} :
      answer.member? "Tags" = some (.array items) → List.Forall₂ Spells items pairs →
        Lists answer pairs
  | row {items : List Json} {pairs : List (String × String)} :
      List.Forall₂ Spells items pairs → Lists (.array [.array items]) pairs
  | noMember {members : List (String × Json)} :
      (Json.object members).member? "Tags" = none → Lists (.object members) []
  | emptyRow : Lists (.array []) []

theorem lists_iff :
    Lists answer pairs ↔ ∃ fields, answer.fields? ["Tags"] = some fields ∧
      Json.defaulted fields "Tags" (Json.list? pair?) [] = some pairs := by
  simp only [Json.defaulted_eq_some_iff, list?_eq_some_iff]
  constructor
  · rintro (⟨found, spelled⟩ | spelled | absent | _)
    · obtain ⟨members, rfl, held⟩ := Json.member?_eq_some_iff.1 found
      exact ⟨members, rfl, .inr ⟨_, held, _, rfl, spelled⟩⟩
    · exact ⟨_, rfl, .inr ⟨_, rfl, _, rfl, spelled⟩⟩
    · exact ⟨_, rfl, .inl ⟨absent, rfl⟩⟩
    · exact ⟨[], rfl, .inl ⟨rfl, rfl⟩⟩
  · rintro ⟨fields, given, held⟩
    -- An object is looked into for the list; a row has place for nothing but the list.
    cases answer with
    | object members =>
      cases given
      rcases held with ⟨absent, rfl⟩ | ⟨_, found, items, rfl, spelled⟩
      · exact .noMember absent
      · exact .member found spelled
    | array items =>
      rcases items with _ | ⟨first, _ | ⟨second, rest⟩⟩ <;> cases given
      · rcases held with ⟨-, rfl⟩ | ⟨_, found, -⟩
        · exact .emptyRow
        · cases found
      · rcases held with ⟨absent, -⟩ | ⟨_, found, items, rfl, spelled⟩
        · cases absent
        · cases found
          exact .row spelled
    | _ => cases given

theorem tags?_eq_some_iff {tags : TagSet} :
    tags? answer = some tags ↔ ∃ pairs, Lists answer pairs ∧ KeyMap.ofList pairs = tags := by
  simp only [lists_iff, tags?, bind, Option.bind_eq_some_iff, pure, Option.some.injEq]
  constructor
  · rintro ⟨fields, given, pairs, held, read⟩
    exact ⟨pairs, ⟨fields, given, held⟩, read⟩
  · rintro ⟨pairs, ⟨fields, given, held⟩, read⟩
    exact ⟨fields, given, pairs, held, read⟩

theorem tags?_eq_none_iff : tags? answer = none ↔ ∀ pairs, ¬ Lists answer pairs := by
  rw [Option.eq_none_iff_forall_ne_some]
  simp [tags?_eq_some_iff]

/-- The list with which tags are set spells them. -/
theorem pairsToJson_spells (tags : TagSet) :
    ∃ items, pairsToJson tags = .array items ∧ List.Forall₂ Spells items tags.entries := by
  refine ⟨_, rfl, List.forall₂_map_left_iff.2 (List.forall₂_same.2 ?_)⟩
  intro tag _
  exact .inl ⟨rfl, rfl⟩

/-- The list with which tags are set, served back in an answer, lists them. -/
theorem lists_of_served {tags : TagSet} {resource : TagResource}
    (served : answer.member? "Tags" =
      ((replace tags).toRequest resource).payload.member? "Tags") :
    Lists answer tags.entries := by
  obtain ⟨items, asItems, spelled⟩ := pairsToJson_spells tags
  have listed : ((replace tags).toRequest resource).payload.member? "Tags" =
      some (pairsToJson tags) := rfl
  exact .member (served.trans (listed.trans (congrArg some asItems))) spelled

end TagCall

namespace TagClient

variable {World : Type}

/-- An action consists of one request, of whose answer only the success counts. -/
def Makes (client : TagClient World) (request : Request)
    (action : World → Except RemoteError Unit × World) : Prop :=
  ∀ world, action world =
    ((client.send request world).1.map fun _ => (), (client.send request world).2)

/-- What a client makes of the answer to its question for the tags of a resource: `result`
is what it makes of `answer`. -/
structure Understands (client : TagClient World) (answer : Json)
    (result : Except RemoteError TagSet) : Prop where
  /-- Tags are set by a request.  When the list in it is served back, whatever else is in the
  answer, it is read as these tags. -/
  written : ∀ other tags,
    client.Makes ((TagCall.replace tags).toRequest other) (client.replace other tags) ∧
      (answer.member? "Tags" =
        ((TagCall.replace tags).toRequest other).payload.member? "Tags" → result = .ok tags)
  /-- Of the tags that are listed, each key has the value of its last entry. -/
  listed : ∀ pairs, TagCall.Lists answer pairs →
    ∃ tags : TagSet, tags.BindsLast pairs ∧ result = .ok tags
  /-- If no key is listed twice, the tags do not depend on the order of the entries. -/
  reordered : ∀ pairs (tags : TagSet), TagCall.Lists answer pairs →
    pairs.Perm tags.entries → result = .ok tags
  /-- Without a list there are no tags. -/
  unlisted : ∀ members, answer = .object members → answer.member? "Tags" = none →
    result = .ok .empty
  /-- Nothing but a list of tags is understood. -/
  refused : (∀ pairs, ¬ TagCall.Lists answer pairs) →
    ∃ message, result = .error (.decode message)

section

variable {client : TagClient World} {resource : TagResource} {world : World} {answer : Json}
  (answered : (client.send (TagCall.describe.toRequest resource) world).1 = .ok answer)

include answered

theorem describe_of_answered :
    (client.describe resource world).1 =
      (TagCall.tags? answer).elim (.error TagCall.malformedTags) .ok := by
  simp only [describe, answered, Except.bind]
  cases TagCall.tags? answer <;> rfl

theorem describe_of_lists {pairs : List (String × String)}
    (lists : TagCall.Lists answer pairs) :
    (client.describe resource world).1 = .ok (.ofList pairs) := by
  rw [describe_of_answered answered, TagCall.tags?_eq_some_iff.2 ⟨pairs, lists, rfl⟩]
  rfl

theorem describe_of_not_lists (foreign : ∀ pairs, ¬ TagCall.Lists answer pairs) :
    (client.describe resource world).1 = .error TagCall.malformedTags := by
  rw [describe_of_answered answered, TagCall.tags?_eq_none_iff.2 foreign]
  rfl

end

/-- A client reads what it writes: the list with which it sets tags, when it is served back,
is read as these tags.  Any other list is read as the tags that it lists, the last entry of a
key counting; a missing one is read as no tags, and nothing else is taken for a list. -/
theorem describe_understands (client : TagClient World) (resource : TagResource)
    (world : World) {answer : Json}
    (answered : (client.send (TagCall.describe.toRequest resource) world).1 = .ok answer) :
    client.Understands answer (client.describe resource world).1 where
  written _ tags := by
    refine ⟨fun _ => rfl, fun served => ?_⟩
    rw [describe_of_lists answered (TagCall.lists_of_served served), KeyMap.ofList_entries]
  listed pairs lists :=
    ⟨.ofList pairs, KeyMap.bindsLast_ofList pairs, describe_of_lists answered lists⟩
  reordered pairs tags lists permuted := by
    rw [describe_of_lists answered lists, KeyMap.ofList_of_perm permuted]
  unlisted members isObject absent := by
    subst isObject
    exact describe_of_lists answered (.noMember absent)
  refused foreign := ⟨_, describe_of_not_lists answered foreign⟩

end TagClient

namespace Simulation

/-- The labels of a resource in production. -/
def labels : TagSet :=
  .ofList [("env", "prod"), ("owner", ""), ("team", "a")]

/-- An answer that serves back the list with which the labels are set, among other members. -/
def servedLabels : Json :=
  .object [("RequestId", .string "r1"), ("Tags", TagCall.pairsToJson labels),
    ("TotalCount", .integer 3)]

/-- An answer that lists a team twice, and an owner by position. -/
def repeatedLabels : Json :=
  .object [("Tags", .array [
    .object [("TagKey", .string "team"), ("TagValue", .string "b")],
    .object [("Category", .null), ("TagKey", .string "env"), ("TagValue", .string "prod")],
    .array [.string "owner", .string ""],
    .object [("TagKey", .string "team"), ("TagValue", .string "a")]])]

/-- A world in which the question for tags is answered. -/
def listing (answer : Json) : World where
  scripts := .ofList [("DescribeResourceTags", [{ answer := .ok answer }])]

/-- The labels are read from the list with which they are set, and the team is read from a
list that corrects it. -/
theorem labels_understood :
    let resource : TagResource := ⟨"db", "instance", "", "d1"⟩
    let question := TagCall.describe.toRequest resource
    ((World.tagClient.send question (listing servedLabels)).1 = .ok servedLabels ∧
      (World.tagClient.describe resource (listing servedLabels)).1 = .ok labels) ∧
    (World.tagClient.send question (listing repeatedLabels)).1 = .ok repeatedLabels ∧
      ∃ tags : TagSet, tags.get? "team" = some "a" ∧
        (World.tagClient.describe resource (listing repeatedLabels)).1 = .ok tags := by
  intro resource question
  have served : (World.tagClient.send question (listing servedLabels)).1 =
      .ok servedLabels := by decide +kernel
  have repeated : (World.tagClient.send question (listing repeatedLabels)).1 =
      .ok repeatedLabels := by decide +kernel
  have lists : TagCall.Lists repeatedLabels
      [("team", "b"), ("env", "prod"), ("owner", ""), ("team", "a")] :=
    .member rfl (.cons (.inl ⟨rfl, rfl⟩) (.cons (.inl ⟨rfl, rfl⟩)
      (.cons (.inr rfl) (.cons (.inl ⟨rfl, rfl⟩) .nil))))
  obtain ⟨tags, bindsLast, read⟩ :=
    (TagClient.describe_understands World.tagClient resource _ repeated).listed _ lists
  refine ⟨⟨served, ?_⟩, repeated, tags, ?_, read⟩
  · exact ((TagClient.describe_understands World.tagClient resource _ served).written
      resource labels).2 rfl
  · exact (bindsLast "team" "a").2 ⟨[("team", "b"), ("env", "prod"), ("owner", "")], [], rfl,
      nofun⟩

end Simulation

end ControlLoop
