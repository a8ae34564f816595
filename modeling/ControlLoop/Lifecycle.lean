import ControlLoop.Json.Record

/-!
# Lifecycle of a record

A record moves through the states of a resource's life.  A resource is created
(`creating`, then `polling create`), read back (`observing`) and then `steady`.
An update compares (`diffing`), refreshes (`observing`), compares again, sends
changes (`updating`), waits (`polling update`) and reads back.  A delete may start
wherever there may be a remote resource (`deleting`, then `polling delete`) and
ends in `absent`.
-/

namespace ControlLoop

/-- The change whose effect is being awaited. -/
inductive Phase where
  | create
  | update
  | delete
  deriving DecidableEq, Repr

namespace Phase

/-- All phases. -/
def all : List Phase := [create, update, delete]

/-- The name of the phase. -/
def name : Phase → String
  | .create => "create"
  | .update => "update"
  | .delete => "delete"

/-- Read a phase. -/
def ofJson? (json : Json) : Option Phase :=
  json.choice?.bind fun name => all.find? fun phase => phase.name == name

end Phase

/-- The state of a record. -/
inductive RecordState where
  /-- No remote resource is known. -/
  | absent
  /-- The create call is under way. -/
  | creating
  /-- Waiting for a change to take effect. -/
  | polling (phase : Phase)
  /-- Reading the remote state. -/
  | observing
  /-- The remote state matches the last applied desired state. -/
  | steady
  /-- Comparing desired with observed state. -/
  | diffing
  /-- Update calls are under way. -/
  | updating
  /-- The delete call is under way. -/
  | deleting
  | createFailed
  | updateFailed
  | deleteFailed
  deriving DecidableEq, Inhabited, Repr

namespace RecordState

/-- All states, in the order of a resource's life. -/
def all : List RecordState :=
  [absent, creating, polling .create, polling .update, polling .delete, observing,
    steady, diffing, updating, deleting, createFailed, updateFailed, deleteFailed]

/-- The name of the state. -/
def name : RecordState → String
  | .absent => "absent"
  | .creating => "creating"
  | .polling phase => "polling_" ++ phase.name
  | .observing => "observing"
  | .steady => "steady"
  | .diffing => "diffing"
  | .updating => "updating"
  | .deleting => "deleting"
  | .createFailed => "create_failed"
  | .updateFailed => "update_failed"
  | .deleteFailed => "delete_failed"

/-- The state that records the failure of a phase. -/
def failed : Phase → RecordState
  | .create => .createFailed
  | .update => .updateFailed
  | .delete => .deleteFailed

/-- Whether the state records a failure. -/
def isFailed : RecordState → Bool
  | .createFailed => true
  | .updateFailed => true
  | .deleteFailed => true
  | _ => false

/-- Whether a remote change may be under way or unconfirmed. -/
def isInProgress : RecordState → Bool
  | .creating => true
  | .polling _ => true
  | .updating => true
  | .deleting => true
  | _ => false

/-- Whether a delete was begun and not yet ended. -/
def isDeletePending : RecordState → Bool
  | .deleting => true
  | .polling .delete => true
  | _ => false

/-- The phase whose wait is resumed when a record with an identifier is reconciled
in this state; in other states the record is compared with the remote state. -/
def resumes? : RecordState → Option Phase
  | .creating => some .create
  | .polling .create => some .create
  | .createFailed => some .create
  | .polling .update => some .update
  | _ => none

/-- The states other than itself and `deleting` that may follow a state. -/
def successors : RecordState → List RecordState
  | .absent => [.creating]
  | .creating => [.polling .create, .createFailed]
  | .polling .create => [.observing, .createFailed]
  | .polling .update => [.observing, .updateFailed]
  | .polling .delete => [.absent, .deleteFailed]
  | .observing => [.steady, .diffing, .absent, .createFailed, .updateFailed]
  | .steady => [.diffing, .observing]
  | .diffing => [.observing, .updating, .steady]
  | .updating => [.polling .update, .observing, .updateFailed, .diffing]
  | .deleting => [.polling .delete, .deleteFailed]
  | .createFailed => [.creating, .polling .create]
  | .updateFailed => [.diffing, .observing]
  | .deleteFailed => [.polling .delete, .diffing, .observing]

/-- Whether a record may move from one state to another.  It may always stay,
which is how an interrupted step is resumed; deleting may start from anything that
may have a remote counterpart. -/
def canMoveTo (state next : RecordState) : Bool :=
  state == next ||
    if next == .deleting then !(state == .absent || state == .polling .delete)
    else state.successors.contains next

/-- Read a state. -/
def ofJson? (json : Json) : Option RecordState :=
  match json.tagged? with
  | some ("polling", phase) => (Phase.ofJson? phase).map .polling
  | _ => json.choice?.bind fun name =>
      all.find? fun state =>
        state.name == name && !(Phase.all.any fun phase => state == .polling phase)

/-- The state as JSON. -/
def toJson : RecordState → Json
  | .polling phase => .object [("polling", .string phase.name)]
  | state => .string state.name

end RecordState

end ControlLoop
