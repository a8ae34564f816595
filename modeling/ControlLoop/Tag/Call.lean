import ControlLoop.Remote
import ControlLoop.Tag.Basic

/-!
# Calls of the tag service

The tag service knows three calls: list the tags of a resource, set pairs, and
remove keys.  This module says how they are phrased as remote requests and how a
list of tags is read from an answer.
-/

namespace ControlLoop

/-- A call of the tag service. -/
inductive TagCall where
  | describe
  | replace (tags : TagSet)
  | delete (keys : KeySet)
  deriving DecidableEq

namespace TagCall

/-- The pairs to set, as the service wants them. -/
def pairsToJson (tags : TagSet) : Json :=
  .array (tags.entries.map fun entry =>
    .object [("TagKey", .string entry.1), ("TagValue", .string entry.2)])

/-- A call as a remote request. -/
def toRequest (resource : TagResource) : TagCall → Request
  | .describe =>
      ⟨"DescribeResourceTags", .object [("ResourceName", .string resource.name)]⟩
  | .replace tags =>
      ⟨"TagResources", .object [
        ("ResourceList", Json.ofStrings [resource.name]),
        ("Tags", pairsToJson tags)]⟩
  | .delete keys =>
      ⟨"UnTagResources", .object [
        ("ResourceList", Json.ofStrings [resource.name]),
        ("TagKeys", Json.ofStrings keys.keys)]⟩

/-- Read one pair. -/
def pair? (json : Json) : Option (String × String) := do
  let fields ← json.fields? ["TagKey", "TagValue"]
  let key ← Json.required fields "TagKey" Json.string?
  let value ← Json.required fields "TagValue" Json.string?
  return (key, value)

/-- Read the tags from the answer to `describe`; the last pair of a key wins, and
a missing list is an empty one. -/
def tags? (json : Json) : Option TagSet := do
  let fields ← json.fields? ["Tags"]
  let pairs ← Json.defaulted fields "Tags" (Json.list? pair?) []
  return KeyMap.ofList pairs

/-- The failure to understand a list of tags. -/
def malformedTags : RemoteError :=
  .decode "tag list: unexpected shape"

end TagCall

end ControlLoop
