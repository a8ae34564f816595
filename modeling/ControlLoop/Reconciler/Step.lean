import ControlLoop.Adapter
import ControlLoop.Outcome
import ControlLoop.Poll
import ControlLoop.Settings
import ControlLoop.Tag.Sync

/-!
# Steps of a pass

The steps from which passes are made: a remote call with retries, a read of a
resource with its tags, a wait for a change, a change of tags, and what a failed
step does to the record.
-/

namespace ControlLoop

/-- What passes need: retries, the known schemas, and the settings. -/
structure Reconciler (World : Type) where
  executor : Executor World
  catalog : Catalog
  settings : Settings

/-- What a pass leaves behind: the record, to be kept whatever the outcome, and the
outcome. -/
abbrev Result : Type := Record × Outcome

namespace Record

/-- Note that a step of a phase failed.  A fatal error taints the record.  The
state changes only when the remote failed, and only if the lifecycle allows it;
after a timeout or a cancellation the step can be resumed. -/
def fail (record : Record) (phase : Phase) (error : PassError) (time : Timestamp) :
    Result :=
  let record := if error.isFatal then { record with tainted := true } else record
  if error.isCancelled then (record, .cancelled phase)
  else if error.isTimeout then (record, .timedOut phase error)
  else
    match record.moveTo (.failed phase) time with
    | .ok record => (record, .failed phase error)
    | .error _ => (record, .failed phase error)

end Record

namespace Reconciler

variable {World : Type}

/-- End a pass because a step failed. -/
def fail (reconciler : Reconciler World) (record : Record) (phase : Phase)
    (error : PassError) : Run World Result := do
  return record.fail phase error (← reconciler.executor.environment.today)

/-- Go on with the record in another state; end the pass if the lifecycle does not
allow it. -/
def entering (reconciler : Reconciler World) (record : Record) (next : RecordState)
    (go : Record → Run World Result) : Run World Result := do
  match record.moveTo next (← reconciler.executor.environment.today) with
  | .ok record => go record
  | .error refusal => return (record, .invalid (.invalidState refusal))

/-- The retry policy for a kind of operation. -/
def policy (reconciler : Reconciler World) : OperationKind → RetryPolicy
  | .write => reconciler.settings.writePolicy
  | .read => reconciler.settings.readPolicy
  | .existenceCheck => reconciler.settings.readPolicy

/-- Make a remote call with retries. -/
def call (reconciler : Reconciler World) (purpose : Purpose) (request : Request) :
    Run World (Except CallError Json) :=
  reconciler.executor.retry request.action purpose.kind
    (reconciler.policy purpose.kind)
    (reconciler.executor.environment.call purpose request)

/-- Make remote calls one after another, up to the first that fails. -/
def callAll (reconciler : Reconciler World) (purpose : Purpose) :
    List Request → Run World (Except CallError Unit)
  | [] => return .ok ()
  | request :: requests => do
      match ← reconciler.call purpose request with
      | .error error => return .error error
      | .ok _ => callAll reconciler purpose requests

/-- Read a resource with its tags; none when it does not exist. -/
def read (reconciler : Reconciler World) (adapter : Adapter) (id : Identifier)
    (purpose : Purpose) : Run World (Except PassError (Option ObservedState)) := do
  let request := adapter.readRequest id
  match ← reconciler.call purpose request with
  | .error error =>
      if error.isNotFound then return .ok none else return .error (.call error)
  | .ok answer =>
      match adapter.readState answer with
      | .error source => return .error (.response request.action source)
      | .ok none => return .ok none
      | .ok (some observed) =>
          match adapter.tagResource id with
          | none => return .ok (some observed)
          | some resource =>
              match ← reconciler.executor.describeTags resource
                  reconciler.settings.readPolicy with
              | .error error => return .error (.tags error)
              | .ok tags => return .ok (some { observed with tags })

/-- Wait until the change of a phase has taken effect. -/
def await (reconciler : Reconciler World) (adapter : Adapter) (id : Identifier)
    (phase : Phase) : Run World (Except PassError Unit) := do
  let request := adapter.readRequest id
  let read := do
    let answer ← reconciler.executor.environment.call (.poll phase) request
    return answer.bind adapter.readStatus
  match ← reconciler.executor.await ("await " ++ phase.name) (adapter.target phase)
      reconciler.settings.pollPolicy read with
  | .error error => return .error (.poll error)
  | .ok _ =>
      Run.note (.settled phase)
      return .ok ()

/-- Lead the remote tags from the record's tags to its desired tags. -/
def applyTags (reconciler : Reconciler World) (adapter : Adapter) (record : Record)
    (id : Identifier) : Run World (Except PassError Unit) := do
  match adapter.tagResource id with
  | none => return .ok ()
  | some resource =>
      let answer ← reconciler.executor.syncTags resource record.desired.tags
        record.tags reconciler.settings.writePolicy
      match answer with
      | .error error => return .error (.tags error)
      | .ok _ => return .ok ()

/-- The change of tags that a desired state asks for. -/
def tagDelta (adapter : Adapter) (id : Identifier) (desired : TagSet)
    (record : Record) : TagDelta :=
  match adapter.tagResource id with
  | none => .empty
  | some _ => .between desired record.tags

/-- The field differences between a desired state and what the record knows. -/
def fieldDiff (record : Record) (desired : DesiredState) (schema : ResourceSchema) :
    Except UndeclaredField FieldDiff :=
  diffAgainst desired.attributes
    ⟨record.lastObserved.attributes, some record.desired.attributes⟩ schema

end Reconciler

end ControlLoop
