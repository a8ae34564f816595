import ControlLoop.Reconciler.Pass
import ControlLoop.Simulation.Adapters
import ControlLoop.Simulation.World

/-!
# A simulated server

A zoned resource with tags and a password that reads never return, and a reconciler that
drives it against scripted answers.
-/

namespace ControlLoop.Simulation.Server

/-- A server stays in its zone; the rest can be changed in place. -/
def schema : ResourceSchema where
  resourceType := "server"
  fields := .ofList [
    ("zone", { classification := .immutable }),
    ("cores", { classification := .mutable }),
    ("password", { classification := .mutable, writeOnly := true })]

/-- A server is ready after a change, or broken for good. -/
def ready : Target :=
  .withFailures (.ofStatuses ["ready"]) ["broken"]

/-- Servers have tags, and take one change at a time. -/
def adapter : Adapter :=
  zoned "server" true true ready ready .absent

/-- The reconciler of servers, with the standard settings but without jitter. -/
def reconciler : Reconciler World where
  executor := ⟨World.environment, .standard, World.rounds⟩
  catalog := .ofSchemas [schema]
  settings := { jitter := false }

/-- A server with so many cores, a password and a team is wanted. -/
def wanted (cores : Int64) (password team : String) : DesiredState where
  attributes := .ofList [("zone", .string "z1"), ("cores", .int cores),
    ("password", .string password)]
  tags := .ofList [("team", team)]

/-- An answer without particulars. -/
def accepted : Entry where
  answer := .ok (.object [])

/-- The remote is busy. -/
def busy : Entry where
  answer := .error (.api "ResourceBusy" "try again" none)

/-- The answer to a create request. -/
def created : Entry where
  answer := .ok (.object [("InstanceId", .string "s1")])

/-- The answer to a read of a server. -/
def found (cores : Int64) (status : String) : Entry where
  answer := .ok (.object [("Instance", .object [
    ("Attributes", .object [("zone", .string "z1"), ("cores", .integer cores.toInt)]),
    ("Status", .string status)])])

/-- The answer to a read of the tags of a server. -/
def tagged (key value : String) : Entry where
  answer := .ok (.object [("Tags", .array [
    .object [("TagKey", .string key), ("TagValue", .string value)]])])

/-- A world that answers from scripts. -/
def world (scripts : List (String × Script)) : World where
  scripts := .ofList scripts

end ControlLoop.Simulation.Server
