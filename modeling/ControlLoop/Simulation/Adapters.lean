import ControlLoop.Adapter

/-!
# Sample adapters

Two resource types for simulations.  A *zoned* resource is addressed by a zone and
an instance, takes all changes in one request or one request each, and may have
tags.  A *plain* resource is addressed by its instance alone, takes one request a
field, and has no tags.
-/

namespace ControlLoop.Simulation

/-- A string member of an answer. -/
def stringMember (answer : Json) (name : String) : Except RemoteError String :=
  match (answer.member? name).bind Json.string? with
  | some value => .ok value
  | none => .error (.decode ("missing " ++ name))

/-- The request that creates either kind of resource. -/
def createRequest (desired : DesiredState) : Request :=
  ⟨"Create", .object [("Attributes", desired.attributes.toJson)]⟩

/-- A request that names an instance. -/
def instanceRequest (action instanceId : String) : Request :=
  ⟨action, .object [("InstanceId", .string instanceId)]⟩

/-- The state of an instance that was found. -/
def instanceState (found : Json) : Except RemoteError ObservedState :=
  match (found.member? "Attributes").bind Json.object? with
  | none => .error (.decode "missing Attributes")
  | some members =>
      let (attributes, dropped) := AttributeMap.ofJsonObject (.ofList members)
      if dropped.isEmpty then
        .ok { attributes, status := (found.member? "Status").bind Json.string? }
      else
        .error (.decode ("unsupported values for " ++ ",".intercalate dropped))

/-- The state in the answer to a read; a missing instance is gone. -/
def readState (answer : Json) : Except RemoteError (Option ObservedState) :=
  match answer.member? "Instance" with
  | none => .ok none
  | some .null => .ok none
  | some found => (instanceState found).map some

namespace Zoned

/-- The zone of an identifier. -/
def zone (id : Identifier) : String :=
  (id.parts[0]?).getD ""

/-- The instance of an identifier. -/
def instanceId (id : Identifier) : String :=
  (id.parts[1]?).getD ""

/-- The components of a new identifier: those that the answer spells out, or the
desired zone and the instance of the answer. -/
def createdParts (answer : Json) (desired : DesiredState) :
    Except RemoteError (List String) :=
  match answer.member? "Parts" with
  | some parts =>
      match parts.strings? with
      | some parts => .ok parts
      | none => .error (.decode "bad Parts")
  | none =>
      match desired.attributes.string? "zone" with
      | none => .error (.decode "desired state has no zone")
      | some zone =>
          (stringMember answer "InstanceId").map fun instanceId => [zone, instanceId]

/-- A request that changes some fields. -/
def modifyRequest (id : Identifier) (updates : List FieldUpdate) : Request :=
  ⟨"Modify", .object [
    ("InstanceId", .string (instanceId id)),
    ("Changes", .object (updates.map fun update => (update.field, update.new.toJson)))]⟩

/-- The requests that apply updates: one for all, or one each. -/
def updateRequests (split : Bool) (id : Identifier) (updates : List FieldUpdate) :
    List Request :=
  if split then updates.map fun update => modifyRequest id [update]
  else if updates.isEmpty then []
  else [modifyRequest id updates]

end Zoned

/-- A zoned resource type. -/
def zoned (resourceType : String) (taggable splitUpdates : Bool)
    (createTarget updateTarget deleteTarget : Target) : Adapter where
  resourceType := resourceType
  idArity := 2
  createRequest := createRequest
  createdParts := Zoned.createdParts
  readRequest id := instanceRequest "Describe" (Zoned.instanceId id)
  readState := readState
  updateRequests := Zoned.updateRequests splitUpdates
  deleteRequest id := instanceRequest "Delete" (Zoned.instanceId id)
  createTarget := createTarget
  updateTarget := updateTarget
  deleteTarget := deleteTarget
  tagResource id :=
    if taggable then some ⟨"test", "instance", Zoned.zone id, Zoned.instanceId id⟩
    else none

/-- The request that changes one field of a plain resource. -/
def setRequest (id : Identifier) (update : FieldUpdate) : Request :=
  ⟨"Set-" ++ update.field, .object [
    ("InstanceId", .string id.encoded),
    ("Old", (update.old.map Value.toJson).getD .null),
    ("New", update.new.toJson)]⟩

/-- A plain resource type. -/
def plain (resourceType : String) (createTarget : Target) : Adapter where
  resourceType := resourceType
  createRequest := createRequest
  createdParts answer _ :=
    (stringMember answer "InstanceId").map fun instanceId => [instanceId]
  readRequest id := instanceRequest "Describe" id.encoded
  readState := readState
  updateRequests id updates := updates.map (setRequest id)
  deleteRequest _ := { action := "Delete" }
  createTarget := createTarget

end ControlLoop.Simulation
