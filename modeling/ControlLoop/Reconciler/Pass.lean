import ControlLoop.Reconciler.Step

/-!
# Passes

A pass drives one record.  `reconcile` leads it towards a desired state: it creates
the resource, updates it, or resumes the wait of an interrupted pass.  `delete`
leads it towards absence.

Every change is followed by a wait, and a pass reports `converged` only after a
read.  A record left in the middle of a wait resumes the wait and does not repeat
the change.
-/

namespace ControlLoop.Reconciler

variable {World : Type}

/-- Read the resource and its tags, and settle in `steady`. -/
def observe (reconciler : Reconciler World) (adapter : Adapter) (record : Record)
    (id : Identifier) (phase : Phase) : Run World Result :=
  reconciler.entering record .observing fun record => do
    match ← reconciler.read adapter id .readBack with
    | .error error => reconciler.fail record phase error
    | .ok none => reconciler.fail record phase (.vanished id.encoded)
    | .ok (some observed) =>
        reconciler.entering (record.withObserved observed) .steady fun record =>
          return (record, .converged)

/-- Apply the desired tags, then observe. -/
def tagAndObserve (reconciler : Reconciler World) (adapter : Adapter)
    (record : Record) (id : Identifier) (phase : Phase) : Run World Result := do
  match ← reconciler.applyTags adapter record id with
  | .error error => reconciler.fail record phase error
  | .ok _ => reconciler.observe adapter record id phase

/-- Wait for the change of a phase, apply the desired tags, then observe. -/
def finish (reconciler : Reconciler World) (adapter : Adapter) (record : Record)
    (id : Identifier) (phase : Phase) : Run World Result :=
  reconciler.entering record (.polling phase) fun record => do
    match ← reconciler.await adapter id phase with
    | .error error => reconciler.fail record phase error
    | .ok _ => reconciler.tagAndObserve adapter record id phase

/-- The identifier of a resource, from the answer to its create request. -/
def createdId (adapter : Adapter) (desired : DesiredState) (request : Request)
    (answer : Json) : Except PassError Identifier :=
  match adapter.createdParts answer desired with
  | .error source => .error (.response request.action source)
  | .ok parts => (Identifier.encode parts).mapError .identifier

/-- Create the resource. -/
def create (reconciler : Reconciler World) (adapter : Adapter) (record : Record)
    (desired : DesiredState) : Run World Result :=
  reconciler.entering record .creating fun record => do
    let request := adapter.createRequest desired
    match ← reconciler.call .create request with
    | .error error => reconciler.fail record .create (.call error)
    | .ok answer =>
        match createdId adapter desired request answer with
        | .error error => reconciler.fail record .create error
        | .ok id =>
            reconciler.finish adapter { record with localId := some id, desired } id
              .create

/-- Send the changes that were found, then wait for them; a change of tags alone
needs no wait. -/
def sendUpdates (reconciler : Reconciler World) (adapter : Adapter)
    (record : Record) (desired : DesiredState) (id : Identifier)
    (updates : List FieldUpdate) : Run World Result :=
  reconciler.entering record .updating fun record => do
    match ← reconciler.callAll .update (adapter.updateRequests id updates) with
    | .error error => reconciler.fail record .update (.call error)
    | .ok _ =>
        let record := { record with desired }
        if updates.isEmpty then reconciler.tagAndObserve adapter record id .update
        else reconciler.finish adapter record id .update

/-- Compare a refreshed record with the desired state and send what differs. -/
def compareAndSend (reconciler : Reconciler World) (adapter : Adapter)
    (schema : ResourceSchema) (record : Record) (desired : DesiredState)
    (id : Identifier) : Run World Result :=
  reconciler.entering record .diffing fun record =>
    match fieldDiff record desired schema with
    | .error fault => return (record, .invalid (.undeclared fault))
    | .ok diff =>
        if !diff.isApplicable then return (record, .frozen diff.violations)
        else if diff.updates.isEmpty &&
            (tagDelta adapter id desired.tags record).isEmpty then
          reconciler.entering { record with desired } .steady fun record =>
            return (record, .converged)
        else
          reconciler.sendUpdates adapter record desired id diff.updates

/-- Update the resource.  Frozen fields are checked against the last known state
before any call is made; a resource that has disappeared is created again. -/
def update (reconciler : Reconciler World) (adapter : Adapter)
    (schema : ResourceSchema) (record : Record) (desired : DesiredState)
    (id : Identifier) : Run World Result :=
  reconciler.entering record .diffing fun record =>
    match fieldDiff record desired schema with
    | .error fault => return (record, .invalid (.undeclared fault))
    | .ok diff =>
        if !diff.isApplicable then return (record, .frozen diff.violations)
        else
          reconciler.entering record .observing fun record => do
            match ← reconciler.read adapter id .refresh with
            | .error error => reconciler.fail record .update error
            | .ok (some observed) =>
                reconciler.compareAndSend adapter schema
                  (record.withObserved observed) desired id
            | .ok none =>
                reconciler.entering record .absent fun record =>
                  reconciler.create adapter record.clearRemote desired

/-- The record's identifier, checked against the number of components that the
resource type has. -/
def checkedId (adapter : Adapter) (record : Record) :
    Except IdentifierError (Option Identifier) :=
  match record.localId with
  | none => .ok none
  | some id => (Identifier.decode id.encoded adapter.idArity).map some

/-- Lead a record towards a desired state. -/
def reconcile (reconciler : Reconciler World) (adapter : Adapter) (record : Record)
    (desired : DesiredState) : Run World Result :=
  if record.tainted then return (record, .unusable)
  else
    match reconciler.catalog.get? adapter.resourceType, checkedId adapter record with
    | none, _ =>
        return (record, .invalid (.unknownResourceType adapter.resourceType))
    | some _, .error error => return (record, .invalid (.identifier error))
    | some schema, .ok id =>
        if record.state.isDeletePending then
          return (record, .invalid (.invalidState
            ⟨record.state.name, "be reconciled while a delete is pending"⟩))
        else
          match id with
          | none =>
              match diffAgainst desired.attributes
                  ⟨record.lastObserved.attributes, none⟩ schema with
              | .error fault => return (record, .invalid (.undeclared fault))
              | .ok _ => reconciler.create adapter record desired
          | some id =>
              match record.state.resumes? with
              | some phase => reconciler.finish adapter record id phase
              | none => reconciler.update adapter schema record desired id

/-- Wait until a resource is gone, and forget it. -/
def finishDelete (reconciler : Reconciler World) (adapter : Adapter)
    (record : Record) (id : Identifier) : Run World Result :=
  reconciler.entering record (.polling .delete) fun record => do
    match ← reconciler.await adapter id .delete with
    | .error error => reconciler.fail record .delete error
    | .ok _ =>
        reconciler.entering record .absent fun record =>
          return ({ record.clearRemote with desired := {}, tainted := false }, .deleted)

/-- Lead a record towards absence.  A resource that is not found counts as
deleted; one that was never known needs no call. -/
def delete (reconciler : Reconciler World) (adapter : Adapter) (record : Record) :
    Run World Result :=
  match checkedId adapter record with
  | .error error => return (record, .invalid (.identifier error))
  | .ok none => return ({ record.clearRemote with state := .absent }, .deleted)
  | .ok (some id) =>
      if record.state = .polling .delete then
        reconciler.finishDelete adapter record id
      else
        reconciler.entering record .deleting fun record => do
          match ← reconciler.call .delete (adapter.deleteRequest id) with
          | .ok _ => reconciler.finishDelete adapter record id
          | .error error =>
              if error.isNotFound then reconciler.finishDelete adapter record id
              else reconciler.fail record .delete (.call error)

end ControlLoop.Reconciler
