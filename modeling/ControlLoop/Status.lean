import ControlLoop.Tag.Basic

/-!
# Observed statuses and targets

A status read finds the resource absent, or present with a status that may be
empty.  A `Target` says which statuses end the wait for a change, and how: a
failure status wins over a target status, and a target that names no status is
reached by any resource that exists, unless it waits for absence.
-/

namespace ControlLoop

/-- What a status read found. -/
inductive ObservedStatus where
  /-- The resource does not exist. -/
  | absent
  /-- The resource exists; the status is empty when it has none. -/
  | present (status : String)
  deriving DecidableEq, Repr

namespace ObservedStatus

/-- The status, if the resource exists. -/
def status? : ObservedStatus → Option String
  | .absent => none
  | .present status => some status

/-- The status of a resource that exists, or absence. -/
def ofOption : Option String → ObservedStatus
  | none => .absent
  | some status => .present status

/-- The status as people read it. -/
def text : ObservedStatus → String
  | .absent => "<absent>"
  | .present status => if status.isEmpty then "<present>" else status

/-- Read a status. -/
def ofJson? (json : Json) : Option ObservedStatus :=
  match json.tagged? with
  | some ("present", status) => status.string?.map .present
  | _ => match json.choice? with
    | some "absent" => some .absent
    | _ => none

/-- The status as JSON. -/
def toJson : ObservedStatus → Json
  | .absent => .string "absent"
  | .present status => .object [("present", .string status)]

end ObservedStatus

/-- What a status means for a wait. -/
inductive PollDecision where
  | reached
  | failed (status : String)
  | pending
  deriving DecidableEq, Repr

/-- Which statuses end a wait, and how. -/
structure Target where
  statuses : KeySet
  failures : KeySet
  /-- Whether absence is what is waited for. -/
  absentIsTarget : Bool
  deriving DecidableEq

namespace Target

/-- Reached by any of the given statuses. -/
def ofStatuses (statuses : List String) : Target :=
  ⟨.ofKeys statuses, .empty, false⟩

/-- Reached by any resource that can be read. -/
def existing : Target := ⟨.empty, .empty, false⟩

/-- Reached when the resource is gone. -/
def absent : Target := ⟨.empty, .empty, true⟩

/-- Also reached by a status. -/
def withStatus (target : Target) (status : String) : Target :=
  { target with statuses := target.statuses.insert status () }

/-- Failed by any of the given statuses. -/
def withFailures (target : Target) (failures : List String) : Target :=
  { target with
    failures := failures.foldl (fun set status => set.insert status ()) target.failures }

/-- Judge an observed status. -/
def evaluate (target : Target) : ObservedStatus → PollDecision
  | .absent => if target.absentIsTarget then .reached else .pending
  | .present status =>
      if target.failures.contains status then .failed status
      else if target.statuses.contains status then .reached
      else if target.statuses.isEmpty && !target.absentIsTarget then .reached
      else .pending

end Target

end ControlLoop
