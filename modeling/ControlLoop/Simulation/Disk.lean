import ControlLoop.Reconciler.Pass
import ControlLoop.Simulation.Adapters
import ControlLoop.Simulation.World

/-!
# A simulated disk

A plain resource with one field, its size, and a reconciler that drives it against
scripted answers.
-/

namespace ControlLoop.Simulation.Disk

/-- The size of a disk can be changed in place. -/
def schema : ResourceSchema where
  resourceType := "disk"
  fields := .ofList [("size", { classification := .mutable })]

/-- A disk is ready after a change, or broken for good. -/
def adapter : Adapter :=
  plain "disk" (.withFailures (.ofStatuses ["ready"]) ["broken"])

/-- The reconciler of disks, with the standard settings but without jitter. -/
def reconciler : Reconciler World where
  executor := ⟨World.environment, .standard, World.rounds⟩
  catalog := .ofSchemas [schema]
  settings := { jitter := false }

/-- A disk of some size is wanted. -/
def sized (size : Int64) : DesiredState where
  attributes := .ofList [("size", .int size)]

/-- The answer to a create request. -/
def created : Entry where
  answer := .ok (.object [("InstanceId", .string "d1")])

/-- The answer to a request that changes the disk. -/
def accepted : Entry where
  answer := .ok (.object [])

/-- The answer to a read of a disk. -/
def found (size : Int64) (status : String) : Entry where
  answer := .ok (.object [("Instance", .object [
    ("Attributes", .object [("size", .integer size.toInt)]),
    ("Status", .string status)])])

/-- The answer to a read when there is no disk. -/
def missing : Entry where
  answer := .ok (.object [])

/-- A world that answers from scripts. -/
def world (scripts : List (String × Script)) : World where
  scripts := .ofList scripts

end ControlLoop.Simulation.Disk
