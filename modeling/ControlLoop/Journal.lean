import ControlLoop.Lifecycle
import ControlLoop.Classifier
import ControlLoop.Duration
import ControlLoop.Tag.Call

/-!
# The journal of a run

A run notes what it does to the outside: each remote call with its purpose and
answer, each call of the tag service, each sleep, and each wait that reached its
target.
-/

namespace ControlLoop

/-- What a remote call is made for. -/
inductive Purpose where
  | create
  | update
  | delete
  /-- See whether the resource still exists, before comparing. -/
  | refresh
  /-- Confirm the state at the end of a pass. -/
  | readBack
  /-- Read the status while waiting for a change. -/
  | poll (phase : Phase)
  deriving DecidableEq, Repr

namespace Purpose

/-- The kind of operation that a purpose calls for. -/
def kind : Purpose → OperationKind
  | .create => .write
  | .update => .write
  | .delete => .write
  | .refresh => .existenceCheck
  | .readBack => .read
  | .poll _ => .read

end Purpose

/-- Something that a run did to the outside. -/
inductive Event where
  | called (purpose : Purpose) (request : Request) (answer : Except RemoteError Json)
  /-- A call of the tag service, with its failure if it failed. -/
  | tagged (resource : TagResource) (call : TagCall) (failure : Option RemoteError)
  /-- A sleep, and whether it was not cut short by cancellation. -/
  | slept (duration : Duration) (completed : Bool)
  /-- A wait that reached its target. -/
  | settled (phase : Phase)

namespace Event

/-- The remote request that an event stands for, tag calls included. -/
def request? : Event → Option Request
  | .called _ request _ => some request
  | .tagged resource call _ => some (call.toRequest resource)
  | _ => none

end Event

/-- The state of the outside together with the journal, latest event first. -/
structure Session (World : Type) where
  world : World
  journal : List Event

namespace Session

variable {World : Type}

/-- A session that has not done anything yet. -/
def fresh (world : World) : Session World := ⟨world, []⟩

/-- The remote requests made, earliest first. -/
def requests (session : Session World) : List Request :=
  session.journal.reverse.filterMap Event.request?

end Session

end ControlLoop
