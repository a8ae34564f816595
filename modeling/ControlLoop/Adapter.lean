import ControlLoop.Diff
import ControlLoop.Identifier
import ControlLoop.Lifecycle
import ControlLoop.Remote
import ControlLoop.State

/-!
# Adapters

An adapter knows one resource type: how its requests are phrased, how answers are
understood, which statuses confirm a change, and where its tags live.
-/

namespace ControlLoop

/-- What is particular to one resource type. -/
structure Adapter where
  /-- The name under which the schema is registered. -/
  resourceType : String
  /-- The number of components of an identifier. -/
  idArity : Nat := 1
  createRequest : DesiredState → Request
  /-- The components of the identifier, from the answer to the create request. -/
  createdParts : Json → DesiredState → Except RemoteError (List String)
  readRequest : Identifier → Request
  /-- The state in the answer to the read request; none when the resource is
  gone. -/
  readState : Json → Except RemoteError (Option ObservedState)
  /-- The requests that apply updates, in order. -/
  updateRequests : Identifier → List FieldUpdate → List Request
  deleteRequest : Identifier → Request
  /-- The statuses that confirm a create. -/
  createTarget : Target
  /-- The statuses that confirm an update. -/
  updateTarget : Target := createTarget
  /-- The statuses that confirm a delete. -/
  deleteTarget : Target := .absent
  /-- The address on the tag service, for resources that have tags. -/
  tagResource : Identifier → Option TagResource := fun _ => none

namespace Adapter

/-- The statuses that confirm a change. -/
def target (adapter : Adapter) : Phase → Target
  | .create => adapter.createTarget
  | .update => adapter.updateTarget
  | .delete => adapter.deleteTarget

/-- The status in the answer to the read request. -/
def readStatus (adapter : Adapter) (answer : Json) :
    Except RemoteError ObservedStatus :=
  (adapter.readState answer).map fun
    | none => .absent
    | some observed => observed.observedStatus

end Adapter

end ControlLoop
