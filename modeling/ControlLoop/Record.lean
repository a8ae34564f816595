import ControlLoop.Identifier
import ControlLoop.Lifecycle
import ControlLoop.State
import ControlLoop.Timestamp

/-!
# Records

A record is all that is kept of a resource between passes.  The identifier alone
is enough to address the resource again; the rest lets differences be found
without a read and lets interrupted passes resume.
-/

namespace ControlLoop

/-- What is kept of a resource between passes. -/
structure Record where
  localId : Option Identifier := none
  /-- The desired state that was last applied. -/
  desired : DesiredState := {}
  lastObserved : ObservedState := {}
  /-- The tags that were last observed. -/
  tags : TagSet := .empty
  state : RecordState := .absent
  /-- Set by a fatal error; the record is not reconciled again. -/
  tainted : Bool := false
  /-- When the state was last set. -/
  updatedAt : Option Timestamp := none
  deriving DecidableEq

/-- A refused action on a record, with the state that refuses it. -/
structure InvalidState where
  state : String
  action : String
  deriving DecidableEq, Repr

namespace InvalidState

/-- The refusal in words. -/
def message (refusal : InvalidState) : String :=
  "record in state '" ++ refusal.state ++ "' cannot " ++ refusal.action

end InvalidState

namespace Record

instance : Inhabited Record := ⟨{}⟩

/-- The record of an existing resource of which only the identifier is known. -/
def imported (identifier : Identifier) : Record :=
  { localId := some identifier, state := .steady }

/-- Move to a state at a point in time, if the lifecycle allows it. -/
def moveTo (record : Record) (next : RecordState) (time : Timestamp) :
    Except InvalidState Record :=
  if record.state.canMoveTo next then
    .ok { record with state := next, updatedAt := some time }
  else .error ⟨record.state.name, "move to " ++ next.name⟩

/-- Forget the remote resource. -/
def clearRemote (record : Record) : Record :=
  { record with localId := none, lastObserved := {}, tags := .empty }

/-- Take over what a read returned. -/
def withObserved (record : Record) (observed : ObservedState) : Record :=
  { record with lastObserved := observed, tags := observed.tags }

/-- The names of the members in JSON. -/
def fieldNames : List String :=
  ["local_id", "desired", "last_observed", "tags", "state", "tainted", "updated_at"]

/-- Read an identifier. -/
def identifier? (json : Json) : Option Identifier :=
  json.string?.bind fun text => (Identifier.parse text).toOption

/-- Read a record; every member may be missing. -/
def ofJson? (json : Json) : Option Record := do
  let fields ← json.fields? fieldNames
  let localId ← Json.optional fields "local_id" identifier?
  let desired ← Json.defaulted fields "desired" DesiredState.ofJson? {}
  let lastObserved ← Json.defaulted fields "last_observed" ObservedState.ofJson? {}
  let tags ← Json.defaulted fields "tags" TagSet.ofJson? .empty
  let state ← Json.defaulted fields "state" RecordState.ofJson? .absent
  let tainted ← Json.defaulted fields "tainted" Json.bool? false
  let updatedAt ← Json.optional fields "updated_at" Timestamp.ofJson?
  return { localId, desired, lastObserved, tags, state, tainted, updatedAt }

/-- The record as JSON; a missing identifier or time is left out. -/
def toJson (record : Record) : Json :=
  .object (
    (record.localId.map fun identifier =>
      ("local_id", Json.string identifier.encoded)).toList ++
    [("desired", record.desired.toJson),
      ("last_observed", record.lastObserved.toJson),
      ("tags", record.tags.toJson),
      ("state", record.state.toJson),
      ("tainted", .bool record.tainted)] ++
    (record.updatedAt.map fun time => ("updated_at", time.toJson)).toList)

end Record

end ControlLoop
