import ControlLoop.Retry

/-!
# Synchronising tags

Tags are changed by two separate calls, first setting pairs and then removing
keys; a half of the change that is empty makes no call.  A failure between the two
leaves the change half applied, and the next comparison finds the rest.
-/

namespace ControlLoop

namespace Executor

variable {World : Type}

/-- List the tags of a resource. -/
def describeTags (executor : Executor World) (resource : TagResource)
    (policy : RetryPolicy) : Run World (Except TagError TagSet) := do
  let answer ← executor.retry "describe tags" .read policy
    (Environment.callTags resource .describe
      (executor.environment.describeTags resource))
  return answer.mapError fun source => ⟨.describe, resource.name, source⟩

/-- Set pairs, if there are any. -/
def replaceTags (executor : Executor World) (resource : TagResource)
    (tags : TagSet) (policy : RetryPolicy) : Run World (Except TagError Unit) :=
  if tags.isEmpty then return .ok ()
  else do
    let answer ← executor.retry "replace tags" .write policy
      (Environment.callTags resource (.replace tags)
        (executor.environment.replaceTags resource tags))
    return answer.mapError fun source => ⟨.replace, resource.name, source⟩

/-- Remove keys, if there are any, after so many pairs were set. -/
def deleteTags (executor : Executor World) (resource : TagResource)
    (replaced : Nat) (keys : KeySet) (policy : RetryPolicy) :
    Run World (Except TagError Unit) :=
  if keys.isEmpty then return .ok ()
  else do
    let answer ← executor.retry "delete tags" .write policy
      (Environment.callTags resource (.delete keys)
        (executor.environment.deleteTags resource keys))
    return answer.mapError fun source => ⟨.delete replaced, resource.name, source⟩

/-- Apply a change of tags. -/
def applyTags (executor : Executor World) (resource : TagResource)
    (delta : TagDelta) (policy : RetryPolicy) :
    Run World (Except TagError Unit) := do
  match ← executor.replaceTags resource delta.toReplace policy with
  | .error error => return .error error
  | .ok _ =>
      executor.deleteTags resource delta.toReplace.size delta.toDelete policy

/-- Lead the tags of a resource from `observed` to `desired`; the result is the
change that was applied. -/
def syncTags (executor : Executor World) (resource : TagResource)
    (desired observed : TagSet) (policy : RetryPolicy) :
    Run World (Except TagError TagDelta) := do
  let delta := TagDelta.between desired observed
  if delta.isEmpty then return .ok delta
  else
    let answer ← executor.applyTags resource delta policy
    return answer.map fun _ => delta

end Executor

end ControlLoop
