import ControlLoop.Proofs.Run
import ControlLoop.Reconciler.Pass

/-!
# Stages of a pass

A pass goes through stages, one for each function it is made of.  `Step` lists what
a pass can do at a stage: refuse by itself, fail because a remote step failed, reach
its goal, or go on at a later stage.  Each rule keeps the equations of the remote
steps it depends on, so that nothing about them is lost.

Main statement: `invariant_of_runFrom`, by which a property that every step keeps
holds at the end of every pass.
-/

namespace ControlLoop

/-- What a pass has to do next. -/
inductive Stage where
  | reconcile (desired : DesiredState)
  | create (desired : DesiredState)
  | update (schema : ResourceSchema) (desired : DesiredState) (id : Identifier)
  | compareAndSend (schema : ResourceSchema) (desired : DesiredState) (id : Identifier)
  | sendUpdates (desired : DesiredState) (id : Identifier) (updates : List FieldUpdate)
  | finish (id : Identifier) (phase : Phase)
  | tagAndObserve (id : Identifier) (phase : Phase)
  | observe (id : Identifier) (phase : Phase)
  | delete
  | finishDelete (id : Identifier)
  | ended (outcome : Outcome)

namespace Stage

/-- Stages only go on at stages of lower rank. -/
def rank : Stage → Nat
  | .ended _ => 0
  | .observe _ _ => 1
  | .tagAndObserve _ _ => 2
  | .finish _ _ => 3
  | .create _ => 4
  | .sendUpdates _ _ _ => 4
  | .compareAndSend _ _ _ => 5
  | .update _ _ _ => 6
  | .reconcile _ => 7
  | .finishDelete _ => 1
  | .delete => 2

/-- The state that a stage enters before it does anything else. -/
def entry? : Stage → Option RecordState
  | .create _ => some .creating
  | .update _ _ _ => some .diffing
  | .compareAndSend _ _ _ => some .diffing
  | .sendUpdates _ _ _ => some .updating
  | .finish _ phase => some (.polling phase)
  | .observe _ _ => some .observing
  | .finishDelete _ => some (.polling .delete)
  | _ => none

/-- Whether a pass may begin at a stage. -/
def isStart : Stage → Bool
  | .reconcile _ => true
  | .delete => true
  | _ => false

/-- The schema and the desired state that a stage compares the record with. -/
def comparison? : Stage → Option (ResourceSchema × DesiredState)
  | .update schema desired _ => some (schema, desired)
  | .compareAndSend schema desired _ => some (schema, desired)
  | _ => none

/-- The resource and the phase that a stage waits for. -/
def awaited? : Stage → Option (Identifier × Phase)
  | .finish id phase => some (id, phase)
  | .finishDelete id => some (id, .delete)
  | _ => none

end Stage

/-- Where a pass stands: what it has to do next, with which record, and in which
session. -/
structure Standing (World : Type) where
  stage : Stage
  record : Record
  session : Session World

namespace Record

/-- What a record holds of its resource and of earlier passes is kept. -/
structure Retains (before after : Record) : Prop where
  localId : after.localId = before.localId
  desired : after.desired = before.desired
  tainted : after.tainted = before.tainted

/-- Nothing of a record has changed but its state and its date. -/
structure Untouched (before after : Record) : Prop extends Retains before after where
  lastObserved : after.lastObserved = before.lastObserved
  tags : after.tags = before.tags

theorem Untouched.refl (record : Record) : record.Untouched record :=
  ⟨⟨rfl, rfl, rfl⟩, rfl, rfl⟩

theorem Retains.trans {first middle last : Record} (earlier : first.Retains middle)
    (later : middle.Retains last) : first.Retains last :=
  ⟨later.localId.trans earlier.localId, later.desired.trans earlier.desired,
    later.tainted.trans earlier.tainted⟩

theorem Untouched.trans {first middle last : Record} (earlier : first.Untouched middle)
    (later : middle.Untouched last) : first.Untouched last :=
  ⟨earlier.toRetains.trans later.toRetains, later.lastObserved.trans earlier.lastObserved,
    later.tags.trans earlier.tags⟩

end Record

namespace Reconciler

variable {World : Type} (reconciler : Reconciler World) (adapter : Adapter)

/-- Move a record to a state at the date of a session. -/
def moved (session : Session World) (record : Record) (next : RecordState) :
    Except InvalidState Record :=
  record.moveTo next (reconciler.executor.environment.date session.world)

/-- The end of a pass because a step of a phase failed. -/
def failing (session : Session World) (record : Record) (phase : Phase)
    (error : PassError) : Result :=
  record.fail phase error (reconciler.executor.environment.date session.world)

/-- What a pass still does from a stage on. -/
def runFrom (record : Record) : Stage → Run World Result
  | .reconcile desired => reconciler.reconcile adapter record desired
  | .create desired => reconciler.create adapter record desired
  | .update schema desired id => reconciler.update adapter schema record desired id
  | .compareAndSend schema desired id =>
      reconciler.compareAndSend adapter schema record desired id
  | .sendUpdates desired id updates =>
      reconciler.sendUpdates adapter record desired id updates
  | .finish id phase => reconciler.finish adapter record id phase
  | .tagAndObserve id phase => reconciler.tagAndObserve adapter record id phase
  | .observe id phase => reconciler.observe adapter record id phase
  | .delete => reconciler.delete adapter record
  | .finishDelete id => reconciler.finishDelete adapter record id
  | .ended outcome => return (record, outcome)

/-! ## Steps -/

/-- A reconcile pass may work on a record, with the schema of its type and its
identifier. -/
structure Accepts (record : Record) (schema : ResourceSchema)
    (id : Option Identifier) : Prop where
  untainted : record.tainted = false
  known : reconciler.catalog.get? adapter.resourceType = some schema
  readable : checkedId adapter record = .ok id
  undeleted : record.state.isDeletePending = false

/-- A stage ends the pass by itself, before any remote step, with an outcome and a
record. -/
inductive Declines (session : Session World) (record : Record) :
    Stage → Outcome → Record → Prop where
  | refused {stage : Stage} {state : RecordState} {refusal : InvalidState} :
      stage.entry? = some state →
      reconciler.moved session record state = .error refusal →
      Declines session record stage (.invalid (.invalidState refusal)) record
  | refusedDelete {id : Identifier} {refusal : InvalidState} :
      checkedId adapter record = .ok (some id) → record.state ≠ .polling .delete →
      reconciler.moved session record .deleting = .error refusal →
      Declines session record .delete (.invalid (.invalidState refusal)) record
  | tainted {desired : DesiredState} :
      record.tainted = true →
      Declines session record (.reconcile desired) .unusable record
  | unknownType {desired : DesiredState} :
      reconciler.catalog.get? adapter.resourceType = none →
      Declines session record (.reconcile desired)
        (.invalid (.unknownResourceType adapter.resourceType)) record
  | unreadableId {stage : Stage} {error : IdentifierError} :
      stage.isStart = true → checkedId adapter record = .error error →
      Declines session record stage (.invalid (.identifier error)) record
  | deletePending {desired : DesiredState} :
      record.state.isDeletePending = true →
      Declines session record (.reconcile desired)
        (.invalid (.invalidState
          ⟨record.state.name, "be reconciled while a delete is pending"⟩)) record
  | undeclaredAtCreate {desired : DesiredState} {schema : ResourceSchema}
      {fault : UndeclaredField} :
      reconciler.Accepts adapter record schema none →
      diffAgainst desired.attributes ⟨record.lastObserved.attributes, none⟩ schema =
        .error fault →
      Declines session record (.reconcile desired) (.invalid (.undeclared fault)) record
  | undeclared {stage : Stage} {schema : ResourceSchema} {desired : DesiredState}
      {compared : Record} {fault : UndeclaredField} :
      stage.comparison? = some (schema, desired) →
      reconciler.moved session record .diffing = .ok compared →
      fieldDiff compared desired schema = .error fault →
      Declines session record stage (.invalid (.undeclared fault)) compared
  | frozen {stage : Stage} {schema : ResourceSchema} {desired : DesiredState}
      {compared : Record} {diff : FieldDiff} :
      stage.comparison? = some (schema, desired) →
      reconciler.moved session record .diffing = .ok compared →
      fieldDiff compared desired schema = .ok diff → diff.isApplicable = false →
      Declines session record stage (.frozen diff.violations) compared

/-- A stage fails in a phase with an error of a remote step.  It has moved the record
on, and leaves a session. -/
inductive Fails (session : Session World) (record : Record) :
    Stage → Phase → PassError → Record → Session World → Prop where
  | create {desired : DesiredState} {begun : Record} {error : CallError}
      {final : Session World} :
      reconciler.moved session record .creating = .ok begun →
      reconciler.call .create (adapter.createRequest desired) session =
        some (.error error, final) →
      Fails session record (.create desired) .create (.call error) begun final
  | createAnswer {desired : DesiredState} {begun : Record} {answer : Json}
      {error : PassError} {final : Session World} :
      reconciler.moved session record .creating = .ok begun →
      reconciler.call .create (adapter.createRequest desired) session =
        some (.ok answer, final) →
      createdId adapter desired (adapter.createRequest desired) answer = .error error →
      Fails session record (.create desired) .create error begun final
  | await {stage : Stage} {id : Identifier} {phase : Phase} {begun : Record}
      {error : PassError} {final : Session World} :
      stage.awaited? = some (id, phase) →
      reconciler.moved session record (.polling phase) = .ok begun →
      reconciler.await adapter id phase session = some (.error error, final) →
      Fails session record stage phase error begun final
  | applyTags {id : Identifier} {phase : Phase} {error : PassError}
      {final : Session World} :
      reconciler.applyTags adapter record id session = some (.error error, final) →
      Fails session record (.tagAndObserve id phase) phase error record final
  | readBack {id : Identifier} {phase : Phase} {begun : Record} {error : PassError}
      {final : Session World} :
      reconciler.moved session record .observing = .ok begun →
      reconciler.read adapter id .readBack session = some (.error error, final) →
      Fails session record (.observe id phase) phase error begun final
  | vanished {id : Identifier} {phase : Phase} {begun : Record}
      {final : Session World} :
      reconciler.moved session record .observing = .ok begun →
      reconciler.read adapter id .readBack session = some (.ok none, final) →
      Fails session record (.observe id phase) phase (.vanished id.encoded) begun final
  | refresh {schema : ResourceSchema} {desired : DesiredState} {id : Identifier}
      {compared begun : Record} {diff : FieldDiff} {error : PassError}
      {final : Session World} :
      reconciler.moved session record .diffing = .ok compared →
      fieldDiff compared desired schema = .ok diff → diff.isApplicable = true →
      reconciler.moved session compared .observing = .ok begun →
      reconciler.read adapter id .refresh session = some (.error error, final) →
      Fails session record (.update schema desired id) .update error begun final
  | send {desired : DesiredState} {id : Identifier} {updates : List FieldUpdate}
      {begun : Record} {error : CallError} {final : Session World} :
      reconciler.moved session record .updating = .ok begun →
      reconciler.callAll .update (adapter.updateRequests id updates) session =
        some (.error error, final) →
      Fails session record (.sendUpdates desired id updates) .update (.call error) begun
        final
  | delete {id : Identifier} {begun : Record} {error : CallError}
      {final : Session World} :
      checkedId adapter record = .ok (some id) → record.state ≠ .polling .delete →
      reconciler.moved session record .deleting = .ok begun →
      reconciler.call .delete (adapter.deleteRequest id) session =
        some (.error error, final) →
      error.isNotFound = false →
      Fails session record .delete .delete (.call error) begun final

/-- What a pass can do at a stage. -/
inductive Step : Standing World → Standing World → Prop where
  | declined {stage : Stage} {record left : Record} {session : Session World}
      {outcome : Outcome} :
      reconciler.Declines adapter session record stage outcome left →
      Step ⟨stage, record, session⟩ ⟨.ended outcome, left, session⟩
  | failed {stage : Stage} {record begun : Record} {session final : Session World}
      {phase : Phase} {error : PassError} :
      reconciler.Fails adapter session record stage phase error begun final →
      Step ⟨stage, record, session⟩
        ⟨.ended (reconciler.failing final begun phase error).2,
          (reconciler.failing final begun phase error).1, final⟩
  | begins {desired : DesiredState} {schema : ResourceSchema} {diff : FieldDiff}
      {record : Record} {session : Session World} :
      reconciler.Accepts adapter record schema none →
      diffAgainst desired.attributes ⟨record.lastObserved.attributes, none⟩ schema =
        .ok diff →
      Step ⟨.reconcile desired, record, session⟩ ⟨.create desired, record, session⟩
  | resumes {desired : DesiredState} {schema : ResourceSchema} {id : Identifier}
      {phase : Phase} {record : Record} {session : Session World} :
      reconciler.Accepts adapter record schema (some id) →
      record.state.resumes? = some phase →
      Step ⟨.reconcile desired, record, session⟩ ⟨.finish id phase, record, session⟩
  | updates {desired : DesiredState} {schema : ResourceSchema} {id : Identifier}
      {record : Record} {session : Session World} :
      reconciler.Accepts adapter record schema (some id) →
      record.state.resumes? = none →
      Step ⟨.reconcile desired, record, session⟩
        ⟨.update schema desired id, record, session⟩
  | created {desired : DesiredState} {record begun : Record} {answer : Json}
      {id : Identifier} {session final : Session World} :
      reconciler.moved session record .creating = .ok begun →
      reconciler.call .create (adapter.createRequest desired) session =
        some (.ok answer, final) →
      createdId adapter desired (adapter.createRequest desired) answer = .ok id →
      Step ⟨.create desired, record, session⟩
        ⟨.finish id .create, { begun with localId := some id, desired }, final⟩
  | reached {id : Identifier} {phase : Phase} {record begun : Record}
      {session final : Session World} :
      reconciler.moved session record (.polling phase) = .ok begun →
      reconciler.await adapter id phase session = some (.ok (), final) →
      Step ⟨.finish id phase, record, session⟩ ⟨.tagAndObserve id phase, begun, final⟩
  | tagged {id : Identifier} {phase : Phase} {record : Record}
      {session final : Session World} :
      reconciler.applyTags adapter record id session = some (.ok (), final) →
      Step ⟨.tagAndObserve id phase, record, session⟩ ⟨.observe id phase, record, final⟩
  | observed {id : Identifier} {phase : Phase} {record begun settled : Record}
      {state : ObservedState} {session final : Session World} :
      reconciler.moved session record .observing = .ok begun →
      reconciler.read adapter id .readBack session = some (.ok (some state), final) →
      reconciler.moved final (begun.withObserved state) .steady = .ok settled →
      Step ⟨.observe id phase, record, session⟩ ⟨.ended .converged, settled, final⟩
  | refreshed {schema : ResourceSchema} {desired : DesiredState} {id : Identifier}
      {record compared begun : Record} {diff : FieldDiff} {state : ObservedState}
      {session final : Session World} :
      reconciler.moved session record .diffing = .ok compared →
      fieldDiff compared desired schema = .ok diff → diff.isApplicable = true →
      reconciler.moved session compared .observing = .ok begun →
      reconciler.read adapter id .refresh session = some (.ok (some state), final) →
      Step ⟨.update schema desired id, record, session⟩
        ⟨.compareAndSend schema desired id, begun.withObserved state, final⟩
  | gone {schema : ResourceSchema} {desired : DesiredState} {id : Identifier}
      {record compared begun lost : Record} {diff : FieldDiff}
      {session final : Session World} :
      reconciler.moved session record .diffing = .ok compared →
      fieldDiff compared desired schema = .ok diff → diff.isApplicable = true →
      reconciler.moved session compared .observing = .ok begun →
      reconciler.read adapter id .refresh session = some (.ok none, final) →
      reconciler.moved final begun .absent = .ok lost →
      Step ⟨.update schema desired id, record, session⟩
        ⟨.create desired, lost.clearRemote, final⟩
  | unchanged {schema : ResourceSchema} {desired : DesiredState} {id : Identifier}
      {record compared settled : Record} {diff : FieldDiff} {session : Session World} :
      reconciler.moved session record .diffing = .ok compared →
      fieldDiff compared desired schema = .ok diff → diff.isEmpty = true →
      (tagDelta adapter id desired.tags compared).isEmpty = true →
      reconciler.moved session { compared with desired } .steady = .ok settled →
      Step ⟨.compareAndSend schema desired id, record, session⟩
        ⟨.ended .converged, settled, session⟩
  | differs {schema : ResourceSchema} {desired : DesiredState} {id : Identifier}
      {record compared : Record} {diff : FieldDiff} {session : Session World} :
      reconciler.moved session record .diffing = .ok compared →
      fieldDiff compared desired schema = .ok diff → diff.isApplicable = true →
      (diff.updates = [] → (tagDelta adapter id desired.tags compared).isEmpty = false) →
      Step ⟨.compareAndSend schema desired id, record, session⟩
        ⟨.sendUpdates desired id diff.updates, compared, session⟩
  | sentNone {desired : DesiredState} {id : Identifier} {record begun : Record}
      {session final : Session World} :
      reconciler.moved session record .updating = .ok begun →
      reconciler.callAll .update (adapter.updateRequests id []) session =
        some (.ok (), final) →
      Step ⟨.sendUpdates desired id [], record, session⟩
        ⟨.tagAndObserve id .update, { begun with desired }, final⟩
  | sent {desired : DesiredState} {id : Identifier} {updates : List FieldUpdate}
      {record begun : Record} {session final : Session World} :
      updates ≠ [] →
      reconciler.moved session record .updating = .ok begun →
      reconciler.callAll .update (adapter.updateRequests id updates) session =
        some (.ok (), final) →
      Step ⟨.sendUpdates desired id updates, record, session⟩
        ⟨.finish id .update, { begun with desired }, final⟩
  | unknown {record : Record} {session : Session World} :
      checkedId adapter record = .ok none →
      Step ⟨.delete, record, session⟩
        ⟨.ended .deleted, { record.clearRemote with state := .absent }, session⟩
  | resumesDelete {id : Identifier} {record : Record} {session : Session World} :
      checkedId adapter record = .ok (some id) → record.state = .polling .delete →
      Step ⟨.delete, record, session⟩ ⟨.finishDelete id, record, session⟩
  | deleting {id : Identifier} {record begun : Record} {session final : Session World}
      {answer : Except CallError Json} :
      checkedId adapter record = .ok (some id) → record.state ≠ .polling .delete →
      reconciler.moved session record .deleting = .ok begun →
      reconciler.call .delete (adapter.deleteRequest id) session =
        some (answer, final) →
      (∀ error, answer = .error error → error.isNotFound = true) →
      Step ⟨.delete, record, session⟩ ⟨.finishDelete id, begun, final⟩
  | deleted {id : Identifier} {record begun lost : Record}
      {session final : Session World} :
      reconciler.moved session record (.polling .delete) = .ok begun →
      reconciler.await adapter id .delete session = some (.ok (), final) →
      reconciler.moved final begun .absent = .ok lost →
      Step ⟨.finishDelete id, record, session⟩
        ⟨.ended .deleted, { lost.clearRemote with desired := {}, tainted := false },
          final⟩

/-! ## Moves and failures -/

section

variable {reconciler}
variable {session : Session World} {record begun : Record}

theorem moved_eq_ok_iff {next : RecordState} :
    reconciler.moved session record next = .ok begun ↔
      record.state.canMoveTo next = true ∧
        begun = { record with
          state := next
          updatedAt := some (reconciler.executor.environment.date session.world) } := by
  rw [moved, Record.moveTo]
  split
  next allowed =>
    simp only [allowed, Except.ok.injEq, true_and]
    exact eq_comm
  next refused => simp [refused]

theorem state_of_moved {next : RecordState}
    (entered : reconciler.moved session record next = .ok begun) : begun.state = next := by
  rw [(moved_eq_ok_iff.1 entered).2]

theorem canMoveTo_of_moved {state : RecordState}
    (entered : reconciler.moved session record state = .ok begun) (next : RecordState)
    (allowed : state.canMoveTo next = true) : begun.state.canMoveTo next = true := by
  rwa [state_of_moved entered]

/-- A move changes nothing of a record but its state and its date. -/
theorem moved_unchanged {next : RecordState}
    (entered : reconciler.moved session record next = .ok begun) :
    begun.localId = record.localId ∧ begun.desired = record.desired ∧
      begun.lastObserved = record.lastObserved ∧ begun.tags = record.tags := by
  rw [(moved_eq_ok_iff.1 entered).2]
  exact ⟨rfl, rfl, rfl, rfl⟩

theorem untouched_of_moved {next : RecordState}
    (entered : reconciler.moved session record next = .ok begun) :
    record.Untouched begun := by
  rw [(moved_eq_ok_iff.1 entered).2]
  exact ⟨⟨rfl, rfl, rfl⟩, rfl, rfl⟩

theorem moved_ne_error {next : RecordState} {refusal : InvalidState}
    (allowed : record.state.canMoveTo next = true) :
    reconciler.moved session record next ≠ .error refusal := by
  rw [moved, Record.moveTo, if_pos allowed]
  exact nofun

end

section

variable (session : Session World) (record : Record) (phase : Phase) (error : PassError)

/-- How a pass ends after a failed step, and in which state it leaves the record. -/
theorem failing_cases :
    (error.isCancelled = true ∧
        (reconciler.failing session record phase error).2 = .cancelled phase ∧
        (reconciler.failing session record phase error).1.state = record.state) ∨
      (error.isCancelled = false ∧ error.isTimeout = true ∧
        (reconciler.failing session record phase error).2 = .timedOut phase error ∧
        (reconciler.failing session record phase error).1.state = record.state) ∨
      (error.isCancelled = false ∧ error.isTimeout = false ∧
        (reconciler.failing session record phase error).2 = .failed phase error ∧
        (reconciler.failing session record phase error).1.state =
          if record.state.canMoveTo (.failed phase) then .failed phase
          else record.state) := by
  rw [failing, Record.fail]
  cases error.isFatal <;> cases error.isCancelled <;> cases error.isTimeout <;>
    cases allowed : record.state.canMoveTo (.failed phase) <;>
    simp [Record.moveTo, allowed]

theorem state_of_failing :
    (reconciler.failing session record phase error).1.state = record.state ∨
      (reconciler.failing session record phase error).1.state = .failed phase := by
  rcases reconciler.failing_cases session record phase error with
    ⟨-, -, same⟩ | ⟨-, -, -, same⟩ | ⟨-, -, -, state⟩
  · exact .inl same
  · exact .inl same
  · rw [state]
    split
    · exact .inr rfl
    · exact .inl rfl

theorem outcome_of_failing :
    (reconciler.failing session record phase error).2 = .cancelled phase ∨
      (reconciler.failing session record phase error).2 = .timedOut phase error ∨
      (reconciler.failing session record phase error).2 = .failed phase error := by
  rcases reconciler.failing_cases session record phase error with
    ⟨-, outcome, -⟩ | ⟨-, -, outcome, -⟩ | ⟨-, -, outcome, -⟩
  · exact .inl outcome
  · exact .inr (.inl outcome)
  · exact .inr (.inr outcome)

theorem failing_ne_invalid (refusal : PassError) :
    (reconciler.failing session record phase error).2 ≠ .invalid refusal := by
  rcases reconciler.outcome_of_failing session record phase error with
    outcome | outcome | outcome <;> rw [outcome] <;> exact nofun

theorem failing_ne_converged :
    (reconciler.failing session record phase error).2 ≠ .converged := by
  rcases reconciler.outcome_of_failing session record phase error with
    outcome | outcome | outcome <;> rw [outcome] <;> exact nofun

theorem failing_ne_deleted :
    (reconciler.failing session record phase error).2 ≠ .deleted := by
  rcases reconciler.outcome_of_failing session record phase error with
    outcome | outcome | outcome <;> rw [outcome] <;> exact nofun

/-- A failed step changes nothing of a record but its state, its date and its
taint. -/
theorem failing_unchanged :
    (reconciler.failing session record phase error).1.localId = record.localId ∧
      (reconciler.failing session record phase error).1.desired = record.desired ∧
      (reconciler.failing session record phase error).1.lastObserved =
        record.lastObserved ∧
      (reconciler.failing session record phase error).1.tags = record.tags := by
  rw [failing, Record.fail]
  cases error.isFatal <;> cases error.isCancelled <;> cases error.isTimeout <;>
    cases allowed : record.state.canMoveTo (.failed phase) <;>
    simp [Record.moveTo, allowed]

end

/-! ## Every pass is made of steps -/

/-- A pass goes on with a step, and ends with a result and a session from there. -/
def GoesOn (standing : Standing World) (result : Result) (final : Session World) : Prop :=
  ∃ next, reconciler.Step adapter standing next ∧
    reconciler.runFrom adapter next.record next.stage next.session = some (result, final)

section

variable {reconciler adapter}
variable {session final : Session World} {record begun : Record} {result : Result}

theorem entering_eq_some_iff {next : RecordState} {go : Record → Run World Result} :
    reconciler.entering record next go session = some (result, final) ↔
      (∃ begun, reconciler.moved session record next = .ok begun ∧
        go begun session = some (result, final)) ∨
      ∃ refusal, reconciler.moved session record next = .error refusal ∧
        result = (record, .invalid (.invalidState refusal)) ∧ final = session := by
  rw [entering, Run.bind_eq_some_iff]
  constructor
  · rintro ⟨time, middle, looked, ran⟩
    cases looked
    rw [← moved] at ran
    cases outcome : reconciler.moved session record next with
    | ok begun =>
        rw [outcome] at ran
        exact .inl ⟨begun, rfl, ran⟩
    | error refusal =>
        rw [outcome] at ran
        cases ran
        exact .inr ⟨refusal, rfl, rfl, rfl⟩
  · rintro (⟨begun, entered, ran⟩ | ⟨refusal, refused, rfl, rfl⟩)
    · refine ⟨_, session, rfl, ?_⟩
      rw [← moved, entered]
      exact ran
    · refine ⟨_, final, rfl, ?_⟩
      rw [← moved, refused]
      rfl

theorem entering_of_moved {next : RecordState} {go : Record → Run World Result}
    (entered : reconciler.moved session record next = .ok begun) :
    reconciler.entering record next go session = go begun session := by
  have looked : reconciler.executor.environment.today session =
    some (reconciler.executor.environment.date session.world, session) := rfl
  rw [moved] at entered
  rw [entering, Run.bind_of_eq_some looked, entered]

/-- A move that the lifecycle allows does not refuse. -/
theorem moved_of_entering {next : RecordState} {go : Record → Run World Result}
    (ran : reconciler.entering record next go session = some (result, final))
    (allowed : record.state.canMoveTo next = true) :
    ∃ begun, reconciler.moved session record next = .ok begun ∧
      go begun session = some (result, final) := by
  rcases entering_eq_some_iff.1 ran with moves | ⟨refusal, refused, -, -⟩
  · exact moves
  · exact absurd refused (moved_ne_error allowed)

theorem goesOn_of_failed {stage : Stage} {middle : Session World} {phase : Phase}
    {error : PassError}
    (fails : reconciler.Fails adapter session record stage phase error begun middle)
    (ran : reconciler.fail begun phase error middle = some (result, final)) :
    reconciler.GoesOn adapter ⟨stage, record, session⟩ result final :=
  ⟨_, .failed fails, ran⟩

/-- A stage that begins with a move either refuses, or goes on with the moved
record. -/
theorem goesOn_of_entering {stage : Stage} {next : RecordState}
    {go : Record → Run World Result}
    (declines : ∀ refusal, reconciler.moved session record next = .error refusal →
      reconciler.Declines adapter session record stage
        (.invalid (.invalidState refusal)) record)
    (ran : reconciler.entering record next go session = some (result, final))
    (goesOn : ∀ begun, reconciler.moved session record next = .ok begun →
      go begun session = some (result, final) →
      reconciler.GoesOn adapter ⟨stage, record, session⟩ result final) :
    reconciler.GoesOn adapter ⟨stage, record, session⟩ result final := by
  rcases entering_eq_some_iff.1 ran with
    ⟨begun, entered, ran⟩ | ⟨refusal, refused, rfl, rfl⟩
  · exact goesOn begun entered ran
  · exact ⟨_, .declined (declines refusal refused), rfl⟩

theorem goesOn_of_observe {id : Identifier} {phase : Phase}
    (ran : reconciler.observe adapter record id phase session = some (result, final)) :
    reconciler.GoesOn adapter ⟨.observe id phase, record, session⟩ result final := by
  apply goesOn_of_entering (fun _ => .refused rfl) ran
  intro begun entered ran
  rcases Run.bind_eq_some_iff.1 ran with ⟨answer, middle, read, ran⟩
  cases answer with
  | error error => exact goesOn_of_failed (.readBack entered read) ran
  | ok found =>
      cases found with
      | none => exact goesOn_of_failed (.vanished entered read) ran
      | some state =>
          have isObserving : begun.state = .observing := state_of_moved entered
          obtain ⟨settled, settles, ran⟩ := moved_of_entering ran (by
            rw [Record.withObserved, isObserving]
            rfl)
          exact ⟨_, .observed entered read settles, ran⟩

theorem goesOn_of_tagAndObserve {id : Identifier} {phase : Phase}
    (ran : reconciler.tagAndObserve adapter record id phase session =
      some (result, final)) :
    reconciler.GoesOn adapter ⟨.tagAndObserve id phase, record, session⟩ result
      final := by
  rcases Run.bind_eq_some_iff.1 ran with ⟨answer, middle, applied, ran⟩
  cases answer with
  | error error => exact goesOn_of_failed (.applyTags applied) ran
  | ok done => exact ⟨_, .tagged applied, ran⟩

theorem goesOn_of_finish {id : Identifier} {phase : Phase}
    (ran : reconciler.finish adapter record id phase session = some (result, final)) :
    reconciler.GoesOn adapter ⟨.finish id phase, record, session⟩ result final := by
  apply goesOn_of_entering (fun _ => .refused rfl) ran
  intro begun entered ran
  rcases Run.bind_eq_some_iff.1 ran with ⟨answer, middle, awaited, ran⟩
  cases answer with
  | error error => exact goesOn_of_failed (.await rfl entered awaited) ran
  | ok done => exact ⟨_, .reached entered awaited, ran⟩

theorem goesOn_of_create {desired : DesiredState}
    (ran : reconciler.create adapter record desired session = some (result, final)) :
    reconciler.GoesOn adapter ⟨.create desired, record, session⟩ result final := by
  apply goesOn_of_entering (fun _ => .refused rfl) ran
  intro begun entered ran
  rcases Run.bind_eq_some_iff.1 ran with ⟨answer, middle, called, ran⟩
  cases answer with
  | error error => exact goesOn_of_failed (.create entered called) ran
  | ok answer =>
      cases created : createdId adapter desired (adapter.createRequest desired) answer with
      | error error =>
          simp only [created] at ran
          exact goesOn_of_failed (.createAnswer entered called created) ran
      | ok id =>
          simp only [created] at ran
          exact ⟨_, .created entered called created, ran⟩

theorem goesOn_of_sendUpdates {desired : DesiredState} {id : Identifier}
    {updates : List FieldUpdate}
    (ran : reconciler.sendUpdates adapter record desired id updates session =
      some (result, final)) :
    reconciler.GoesOn adapter ⟨.sendUpdates desired id updates, record, session⟩ result
      final := by
  apply goesOn_of_entering (fun _ => .refused rfl) ran
  intro begun entered ran
  rcases Run.bind_eq_some_iff.1 ran with ⟨answer, middle, sent, ran⟩
  cases answer with
  | error error => exact goesOn_of_failed (.send entered sent) ran
  | ok done =>
      cases updates with
      | nil => exact ⟨_, .sentNone entered sent, ran⟩
      | cons update updates =>
          exact ⟨_, .sent (List.cons_ne_nil _ _) entered sent, ran⟩

theorem goesOn_of_compareAndSend {schema : ResourceSchema} {desired : DesiredState}
    {id : Identifier}
    (ran : reconciler.compareAndSend adapter schema record desired id session =
      some (result, final)) :
    reconciler.GoesOn adapter ⟨.compareAndSend schema desired id, record, session⟩ result
      final := by
  apply goesOn_of_entering (fun _ => .refused rfl) ran
  intro compared entered ran
  cases differs : fieldDiff compared desired schema with
  | error fault =>
      simp only [differs] at ran
      cases ran
      exact ⟨_, .declined (.undeclared rfl entered differs), rfl⟩
  | ok diff =>
      simp only [differs] at ran
      cases applicable : diff.isApplicable with
      | false =>
          simp only [applicable, Bool.not_false, if_true] at ran
          cases ran
          exact ⟨_, .declined (.frozen rfl entered differs applicable), rfl⟩
      | true =>
          simp only [applicable, Bool.not_true, Bool.false_eq_true, if_false] at ran
          split at ran
          next nothing =>
            rw [Bool.and_eq_true] at nothing
            have isDiffing : compared.state = .diffing := state_of_moved entered
            obtain ⟨settled, settles, ran⟩ := moved_of_entering ran (by
              rw [isDiffing]
              rfl)
            have isEmpty : diff.isEmpty = true := by
              rw [FieldDiff.isEmpty, nothing.1, ← FieldDiff.isApplicable, applicable]
              rfl
            exact ⟨_, .unchanged entered differs isEmpty nothing.2 settles, ran⟩
          next something =>
            refine ⟨_, .differs entered differs applicable fun none => ?_, ran⟩
            rw [none] at something
            simpa using something

theorem goesOn_of_update {schema : ResourceSchema} {desired : DesiredState}
    {id : Identifier}
    (ran : reconciler.update adapter schema record desired id session =
      some (result, final)) :
    reconciler.GoesOn adapter ⟨.update schema desired id, record, session⟩ result
      final := by
  apply goesOn_of_entering (fun _ => .refused rfl) ran
  intro compared entered ran
  have isDiffing : compared.state = .diffing := state_of_moved entered
  cases differs : fieldDiff compared desired schema with
  | error fault =>
      simp only [differs] at ran
      cases ran
      exact ⟨_, .declined (.undeclared rfl entered differs), rfl⟩
  | ok diff =>
      simp only [differs] at ran
      cases applicable : diff.isApplicable with
      | false =>
          simp only [applicable, Bool.not_false, if_true] at ran
          cases ran
          exact ⟨_, .declined (.frozen rfl entered differs applicable), rfl⟩
      | true =>
          simp only [applicable, Bool.not_true, Bool.false_eq_true, if_false] at ran
          obtain ⟨begun, observing, ran⟩ := moved_of_entering ran (by
            rw [isDiffing]
            rfl)
          rcases Run.bind_eq_some_iff.1 ran with ⟨answer, middle, read, ran⟩
          cases answer with
          | error error =>
              exact goesOn_of_failed
                (.refresh entered differs applicable observing read) ran
          | ok found =>
              cases found with
              | some state =>
                  exact ⟨_, .refreshed entered differs applicable observing read, ran⟩
              | none =>
                  have isObserving : begun.state = .observing := state_of_moved observing
                  obtain ⟨lost, loses, ran⟩ := moved_of_entering ran (by
                    rw [isObserving]
                    rfl)
                  exact ⟨_, .gone entered differs applicable observing read loses, ran⟩

theorem goesOn_of_reconcile {desired : DesiredState}
    (ran : reconciler.reconcile adapter record desired session = some (result, final)) :
    reconciler.GoesOn adapter ⟨.reconcile desired, record, session⟩ result final := by
  rw [reconcile] at ran
  split at ran
  next tainted =>
    cases ran
    exact ⟨_, .declined (.tainted tainted), rfl⟩
  next untainted =>
    rw [Bool.not_eq_true] at untainted
    cases known : reconciler.catalog.get? adapter.resourceType with
    | none =>
        simp only [known] at ran
        cases ran
        exact ⟨_, .declined (.unknownType known), rfl⟩
    | some schema =>
        cases readable : checkedId adapter record with
        | error error =>
            simp only [known, readable] at ran
            cases ran
            exact ⟨_, .declined (.unreadableId rfl readable), rfl⟩
        | ok id =>
            simp only [known, readable] at ran
            split at ran
            next pending =>
              cases ran
              exact ⟨_, .declined (.deletePending pending), rfl⟩
            next undeleted =>
              rw [Bool.not_eq_true] at undeleted
              have accepts : reconciler.Accepts adapter record schema id :=
                ⟨untainted, known, readable, undeleted⟩
              cases id with
              | none =>
                  cases differs : diffAgainst desired.attributes
                      ⟨record.lastObserved.attributes, none⟩ schema with
                  | error fault =>
                      simp only [differs] at ran
                      cases ran
                      exact ⟨_, .declined (.undeclaredAtCreate accepts differs), rfl⟩
                  | ok diff =>
                      simp only [differs] at ran
                      exact ⟨_, .begins accepts differs, ran⟩
              | some id =>
                  cases resumption : record.state.resumes? with
                  | none =>
                      simp only [resumption] at ran
                      exact ⟨_, .updates accepts resumption, ran⟩
                  | some phase =>
                      simp only [resumption] at ran
                      exact ⟨_, .resumes accepts resumption, ran⟩

theorem goesOn_of_finishDelete {id : Identifier}
    (ran : reconciler.finishDelete adapter record id session = some (result, final)) :
    reconciler.GoesOn adapter ⟨.finishDelete id, record, session⟩ result final := by
  apply goesOn_of_entering (fun _ => .refused rfl) ran
  intro begun entered ran
  rcases Run.bind_eq_some_iff.1 ran with ⟨answer, middle, awaited, ran⟩
  cases answer with
  | error error => exact goesOn_of_failed (.await rfl entered awaited) ran
  | ok done =>
      have isPolling : begun.state = .polling .delete := state_of_moved entered
      obtain ⟨lost, loses, ran⟩ := moved_of_entering ran (by
        rw [isPolling]
        rfl)
      exact ⟨_, .deleted entered awaited loses, ran⟩

theorem goesOn_of_delete
    (ran : reconciler.delete adapter record session = some (result, final)) :
    reconciler.GoesOn adapter ⟨.delete, record, session⟩ result final := by
  rw [delete] at ran
  cases readable : checkedId adapter record with
  | error error =>
      simp only [readable] at ran
      cases ran
      exact ⟨_, .declined (.unreadableId rfl readable), rfl⟩
  | ok known =>
      cases known with
      | none =>
          simp only [readable] at ran
          cases ran
          exact ⟨_, .unknown readable, rfl⟩
      | some id =>
          simp only [readable] at ran
          split at ran
          next isPolling => exact ⟨_, .resumesDelete readable isPolling, ran⟩
          next notPolling =>
            apply goesOn_of_entering (fun _ => .refusedDelete readable notPolling) ran
            intro begun entered ran
            rcases Run.bind_eq_some_iff.1 ran with ⟨answer, middle, called, ran⟩
            rcases answer with error | answer
            · dsimp only at ran
              split at ran
              next notFound =>
                refine ⟨_, .deleting readable notPolling entered called ?_, ran⟩
                intro other same
                cases same
                exact notFound
              next found =>
                rw [Bool.not_eq_true] at found
                exact goesOn_of_failed (.delete readable notPolling entered called found)
                  ran
            · exact ⟨_, .deleting readable notPolling entered called nofun, ran⟩

/-- Every stage but the last makes a step. -/
theorem goesOn_of_runFrom {stage : Stage}
    (ran : reconciler.runFrom adapter record stage session = some (result, final)) :
    (∃ outcome, stage = .ended outcome ∧ result = (record, outcome) ∧ final = session) ∨
      reconciler.GoesOn adapter ⟨stage, record, session⟩ result final := by
  cases stage with
  | reconcile desired => exact .inr (goesOn_of_reconcile ran)
  | create desired => exact .inr (goesOn_of_create ran)
  | update schema desired id => exact .inr (goesOn_of_update ran)
  | compareAndSend schema desired id => exact .inr (goesOn_of_compareAndSend ran)
  | sendUpdates desired id updates => exact .inr (goesOn_of_sendUpdates ran)
  | finish id phase => exact .inr (goesOn_of_finish ran)
  | tagAndObserve id phase => exact .inr (goesOn_of_tagAndObserve ran)
  | observe id phase => exact .inr (goesOn_of_observe ran)
  | delete => exact .inr (goesOn_of_delete ran)
  | finishDelete id => exact .inr (goesOn_of_finishDelete ran)
  | ended outcome =>
      cases ran
      exact .inl ⟨outcome, rfl, rfl, rfl⟩

theorem Declines.ne_converged {stage : Stage} {outcome : Outcome} {left : Record}
    (declines : reconciler.Declines adapter session record stage outcome left) :
    outcome ≠ .converged := by
  cases declines <;> exact nofun

theorem Declines.ne_deleted {stage : Stage} {outcome : Outcome} {left : Record}
    (declines : reconciler.Declines adapter session record stage outcome left) :
    outcome ≠ .deleted := by
  cases declines <;> exact nofun

theorem Declines.untouched {stage : Stage} {outcome : Outcome} {left : Record}
    (declines : reconciler.Declines adapter session record stage outcome left) :
    record.Untouched left := by
  cases declines with
  | undeclared _ entered _ => exact untouched_of_moved entered
  | frozen _ entered _ _ => exact untouched_of_moved entered
  | _ => exact .refl record

/-- A step that fails has changed the record by moves only. -/
theorem Fails.untouched {stage : Stage} {phase : Phase} {error : PassError}
    (fails : reconciler.Fails adapter session record stage phase error begun final) :
    record.Untouched begun := by
  cases fails with
  | create entered _ => exact untouched_of_moved entered
  | createAnswer entered _ _ => exact untouched_of_moved entered
  | await _ entered _ => exact untouched_of_moved entered
  | applyTags _ => exact .refl record
  | readBack entered _ => exact untouched_of_moved entered
  | vanished entered _ => exact untouched_of_moved entered
  | refresh compares _ _ entered _ =>
      exact (untouched_of_moved compares).trans (untouched_of_moved entered)
  | send entered _ => exact untouched_of_moved entered
  | delete _ _ entered _ _ => exact untouched_of_moved entered

theorem Declines.rank_pos {stage : Stage} {outcome : Outcome} {left : Record}
    (declines : reconciler.Declines adapter session record stage outcome left) :
    0 < stage.rank := by
  cases declines with
  | refused entry _ => cases stage <;> simp_all [Stage.entry?, Stage.rank]
  | unreadableId start _ => cases stage <;> simp_all [Stage.isStart, Stage.rank]
  | undeclared compares _ _ => cases stage <;> simp_all [Stage.comparison?, Stage.rank]
  | frozen compares _ _ _ => cases stage <;> simp_all [Stage.comparison?, Stage.rank]
  | _ => simp [Stage.rank]

theorem Fails.rank_pos {stage : Stage} {phase : Phase} {error : PassError}
    (fails : reconciler.Fails adapter session record stage phase error begun final) :
    0 < stage.rank := by
  cases fails with
  | await waits _ _ => cases stage <;> simp_all [Stage.awaited?, Stage.rank]
  | _ => simp [Stage.rank]

/-- Steps go on at stages of lower rank. -/
theorem Step.rank_lt {standing next : Standing World}
    (step : reconciler.Step adapter standing next) :
    next.stage.rank < standing.stage.rank := by
  cases step with
  | declined declines => exact declines.rank_pos
  | failed fails => exact fails.rank_pos
  | _ => simp [Stage.rank]

/-- A property of standings that every step keeps holds at the end of a pass. -/
theorem invariant_of_runFrom {invariant : Standing World → Prop}
    (kept : ∀ standing next, invariant standing → reconciler.Step adapter standing next →
      invariant next)
    {stage : Stage} {after : Record} {outcome : Outcome}
    (ran : reconciler.runFrom adapter record stage session =
      some ((after, outcome), final))
    (begins : invariant ⟨stage, record, session⟩) :
    invariant ⟨.ended outcome, after, final⟩ := by
  induction rank : stage.rank using Nat.strongRecOn generalizing stage record session with
  | ind rank ih =>
      rcases goesOn_of_runFrom ran with ⟨outcome, rfl, same, rfl⟩ | ⟨next, step, ran⟩
      · cases same
        exact begins
      · exact ih next.stage.rank (rank ▸ step.rank_lt) ran (kept _ _ begins step) rfl

end

end Reconciler

end ControlLoop
