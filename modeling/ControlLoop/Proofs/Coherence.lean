import ControlLoop.Proofs.History
import ControlLoop.Proofs.Identifier
import ControlLoop.Simulation.Disk

/-!
# Coherent records

A record without an identifier knows nothing of a remote resource, and a record with
one is in a state that a resource can be in.  Passes keep records coherent whatever
the outside does, so a record never gets stuck: no delete is ever refused, and a
reconcile is refused for its state only while a delete is pending.

The invariant behind this is `Stage.Admits`, which says what a record looks like at
every stage of a pass.
-/

namespace ControlLoop

namespace Record

/-- The identifier and the rest of the record agree on whether there is a remote
resource. -/
structure Coherent (record : Record) : Prop where
  unaddressed : record.localId = none →
    (record.state = .absent ∨ record.state = .creating ∨
      record.state = .createFailed) ∧
      record.lastObserved = {} ∧ record.tags = .empty
  addressed : record.localId ≠ none →
    record.state ≠ .absent ∧ record.state ≠ .creating

/-- The identifier, if there is one, has the components that the adapter expects. -/
def Fits (record : Record) (adapter : Adapter) : Prop :=
  ∀ id, record.localId = some id → id.arity = adapter.idArity

/-- Nothing is known of a remote resource. -/
structure Blank (record : Record) : Prop where
  localId : record.localId = none
  lastObserved : record.lastObserved = {}
  tags : record.tags = .empty

/-- The record addresses a resource of the adapter. -/
structure Addresses (record : Record) (adapter : Adapter) (id : Identifier) : Prop where
  localId : record.localId = some id
  arity : id.arity = adapter.idArity

variable {record after : Record} {adapter : Adapter} {id : Identifier}

theorem Blank.coherent (blank : record.Blank) (adapter : Adapter)
    (state : record.state = .absent ∨ record.state = .creating ∨
      record.state = .createFailed) : record.Coherent ∧ record.Fits adapter := by
  refine ⟨⟨fun _ => ⟨state, blank.lastObserved, blank.tags⟩, ?_⟩, ?_⟩
  · intro addressed
    exact absurd blank.localId addressed
  · intro id known
    rw [blank.localId] at known
    cases known

theorem Addresses.coherent (addresses : record.Addresses adapter id)
    (notAbsent : record.state ≠ .absent) (notCreating : record.state ≠ .creating) :
    record.Coherent ∧ record.Fits adapter := by
  refine ⟨⟨?_, fun _ => ⟨notAbsent, notCreating⟩⟩, ?_⟩
  · intro unaddressed
    rw [addresses.localId] at unaddressed
    cases unaddressed
  · intro other known
    rw [addresses.localId] at known
    cases known
    exact addresses.arity

/-- The state of a coherent record that addresses a resource. -/
theorem Coherent.of_addresses (coherent : record.Coherent)
    (addresses : record.Addresses adapter id) :
    record.state ≠ .absent ∧ record.state ≠ .creating :=
  coherent.addressed (by simp [addresses.localId])

theorem Coherent.blank (coherent : record.Coherent) (unknown : record.localId = none) :
    record.Blank :=
  ⟨unknown, (coherent.unaddressed unknown).2.1, (coherent.unaddressed unknown).2.2⟩

end Record

namespace RecordState

/-- Whatever has a remote counterpart can be deleted. -/
theorem canMoveTo_deleting {state : RecordState} (notAbsent : state ≠ .absent)
    (notPolling : state ≠ .polling .delete) : state.canMoveTo .deleting = true := by
  simp [canMoveTo, notAbsent, notPolling]

/-- An interrupted wait can always be taken up again. -/
theorem canMoveTo_of_resumes? {state : RecordState} {phase : Phase}
    (resumes : state.resumes? = some phase) :
    phase ≠ .delete ∧ state.canMoveTo (.polling phase) = true := by
  cases state with
  | polling waited => cases waited <;> cases resumes <;> decide
  | _ => cases resumes <;> decide

/-- A record that is neither new nor being deleted nor to be resumed can be
compared. -/
theorem canMoveTo_diffing {state : RecordState} (notAbsent : state ≠ .absent)
    (undeleted : state.isDeletePending = false) (noResumption : state.resumes? = none) :
    state.canMoveTo .diffing = true := by
  cases state with
  | polling waited => cases waited <;> simp_all [resumes?, isDeletePending]
  | _ => simp_all [resumes?, isDeletePending] <;> decide

end RecordState

namespace Stage

/-- What a coherent pass finds at a stage: who the record addresses, and in which
states it may be.  `permits` lists the refusals with which the pass may end. -/
def Admits (adapter : Adapter) (permits : PassError → Prop) (record : Record) :
    Stage → Prop
  | .reconcile _ => record.Coherent ∧ record.Fits adapter ∧
      (∀ fault, permits (.undeclared fault)) ∧
      (∀ resourceType, permits (.unknownResourceType resourceType)) ∧
      (record.state.isDeletePending = true → ∀ refusal, permits (.invalidState refusal))
  | .create _ => record.Blank ∧ record.state.canMoveTo .creating = true
  | .update _ _ id => record.Addresses adapter id ∧
      record.state.canMoveTo .diffing = true ∧ ∀ fault, permits (.undeclared fault)
  | .compareAndSend _ _ id => record.Addresses adapter id ∧ record.state = .observing ∧
      ∀ fault, permits (.undeclared fault)
  | .sendUpdates _ id _ => record.Addresses adapter id ∧ record.state = .diffing
  | .finish id phase => record.Addresses adapter id ∧ phase ≠ .delete ∧
      record.state.canMoveTo (.polling phase) = true
  | .tagAndObserve id phase => record.Addresses adapter id ∧ phase ≠ .delete ∧
      (record.state = .polling phase ∨ record.state = .updating)
  | .observe id phase => record.Addresses adapter id ∧ phase ≠ .delete ∧
      (record.state = .polling phase ∨ record.state = .updating)
  | .delete => record.Coherent ∧ record.Fits adapter
  | .finishDelete id => record.Addresses adapter id ∧
      (record.state = .deleting ∨ record.state = .polling .delete)
  | .ended outcome => record.Coherent ∧ record.Fits adapter ∧
      ∀ error, outcome = .invalid error → permits error

end Stage

namespace Reconciler

variable {World : Type} {reconciler : Reconciler World} {adapter : Adapter}
variable {session final : Session World} {record begun : Record} {id : Identifier}
variable {permits : PassError → Prop}

theorem addresses_of_moved {state : RecordState}
    (entered : reconciler.moved session record state = .ok begun)
    (addresses : record.Addresses adapter id) : begun.Addresses adapter id :=
  ⟨(moved_unchanged entered).1.trans addresses.localId, addresses.arity⟩

theorem addresses_of_checkedId (checked : checkedId adapter record = .ok (some id)) :
    record.Addresses adapter id :=
  ⟨(checkedId_eq_ok_some_iff.1 checked).1, (checkedId_eq_ok_some_iff.1 checked).2⟩

/-- A record that fits the adapter passes the check of its identifier. -/
theorem checkedId_ne_error (fits : record.Fits adapter) {error : IdentifierError} :
    checkedId adapter record ≠ .error error := by
  cases known : record.localId with
  | none =>
      rw [checkedId_eq_ok_none_iff.2 known]
      exact nofun
  | some id =>
      rw [checkedId_eq_ok_some_iff.2 ⟨known, fits id known⟩]
      exact nofun

/-- A failed step keeps what a record addresses, and moves it at most to the failure
state of the phase. -/
theorem coherent_of_failing (session : Session World) (phase : Phase) (error : PassError)
    (addresses : record.Addresses adapter id)
    (notAbsent : record.state ≠ .absent) (notCreating : record.state ≠ .creating) :
    (reconciler.failing session record phase error).1.Coherent ∧
      (reconciler.failing session record phase error).1.Fits adapter := by
  have same := reconciler.failing_unchanged session record phase error
  have addresses' :
      (reconciler.failing session record phase error).1.Addresses adapter id :=
    ⟨same.1.trans addresses.localId, addresses.arity⟩
  rcases reconciler.state_of_failing session record phase error with state | state
  · exact addresses'.coherent (state ▸ notAbsent) (state ▸ notCreating)
  · refine addresses'.coherent ?_ ?_ <;> rw [state] <;> cases phase <;> decide

/-- No stage of a coherent pass is refused its first move. -/
theorem canEnter_of_admits {stage : Stage} {state : RecordState}
    (admits : stage.Admits adapter permits record) (entry : stage.entry? = some state) :
    record.state.canMoveTo state = true := by
  cases stage with
  | create desired =>
      cases entry
      exact admits.2
  | update schema desired id =>
      cases entry
      exact admits.2.1
  | compareAndSend schema desired id =>
      cases entry
      rw [admits.2.1]
      decide
  | sendUpdates desired id updates =>
      cases entry
      rw [admits.2]
      decide
  | finish id phase =>
      cases entry
      exact admits.2.2
  | observe id phase =>
      cases entry
      rcases admits with ⟨-, notDelete, state | state⟩ <;> rw [state]
      · cases phase <;> first | decide | exact absurd rfl notDelete
      · decide
  | finishDelete id =>
      cases entry
      rcases admits with ⟨-, state | state⟩ <;> rw [state] <;> decide
  | reconcile _ => cases entry
  | tagAndObserve _ _ => cases entry
  | delete => cases entry
  | ended _ => cases entry

theorem fits_of_isStart {stage : Stage} (admits : stage.Admits adapter permits record)
    (start : stage.isStart = true) : record.Fits adapter := by
  cases stage with
  | reconcile desired => exact admits.2.1
  | delete => exact admits.2
  | _ => cases start

/-- A stage that compares leaves a coherent record when it stops there, and may stop
because of an undeclared field. -/
theorem coherent_of_comparison {stage : Stage} {schema : ResourceSchema}
    {desired : DesiredState} (admits : stage.Admits adapter permits record)
    (compares : stage.comparison? = some (schema, desired))
    (entered : reconciler.moved session record .diffing = .ok begun) :
    (begun.Coherent ∧ begun.Fits adapter) ∧ ∀ fault, permits (.undeclared fault) := by
  have state := state_of_moved entered
  cases stage with
  | update schema desired id =>
      refine ⟨(addresses_of_moved entered admits.1).coherent ?_ ?_, admits.2.2⟩ <;>
        rw [state] <;> decide
  | compareAndSend schema desired id =>
      refine ⟨(addresses_of_moved entered admits.1).coherent ?_ ?_, admits.2.2⟩ <;>
        rw [state] <;> decide
  | _ => cases compares

theorem admits_of_declines {stage : Stage} {outcome : Outcome} {left : Record}
    (admits : stage.Admits adapter permits record)
    (declines : reconciler.Declines adapter session record stage outcome left) :
    (Stage.ended outcome).Admits adapter permits left := by
  cases declines with
  | refused entry refused =>
      exact absurd refused (moved_ne_error (canEnter_of_admits admits entry))
  | refusedDelete readable notPolling refused =>
      rcases admits with ⟨coherent, -⟩
      have notAbsent := (coherent.of_addresses (addresses_of_checkedId readable)).1
      exact absurd refused
        (moved_ne_error (RecordState.canMoveTo_deleting notAbsent notPolling))
  | tainted _ => exact ⟨admits.1, admits.2.1, nofun⟩
  | unknownType _ =>
      refine ⟨admits.1, admits.2.1, fun error same => ?_⟩
      cases same
      exact admits.2.2.2.1 adapter.resourceType
  | unreadableId start unreadable =>
      exact absurd unreadable (checkedId_ne_error (fits_of_isStart admits start))
  | deletePending pending =>
      refine ⟨admits.1, admits.2.1, fun error same => ?_⟩
      cases same
      exact admits.2.2.2.2 pending _
  | undeclaredAtCreate _ _ =>
      refine ⟨admits.1, admits.2.1, fun error same => ?_⟩
      cases same
      exact admits.2.2.1 _
  | undeclared compares entered _ =>
      rcases coherent_of_comparison admits compares entered with
        ⟨⟨coherent, fits⟩, permitted⟩
      refine ⟨coherent, fits, fun error same => ?_⟩
      cases same
      exact permitted _
  | frozen compares entered _ _ =>
      rcases coherent_of_comparison admits compares entered with ⟨⟨coherent, fits⟩, -⟩
      exact ⟨coherent, fits, nofun⟩

theorem admits_of_coherent_failing {phase : Phase} {error : PassError}
    (left : (reconciler.failing session record phase error).1.Coherent ∧
      (reconciler.failing session record phase error).1.Fits adapter) :
    (Stage.ended (reconciler.failing session record phase error).2).Admits adapter permits
      (reconciler.failing session record phase error).1 := by
  refine ⟨left.1, left.2, ?_⟩
  intro refusal same
  exact absurd same (reconciler.failing_ne_invalid session record phase error refusal)

/-- Where a stage has moved a record that addresses a resource, a failure leaves it
coherent. -/
theorem admits_of_moved_failing {state : RecordState} {phase : Phase} {error : PassError}
    (entered : reconciler.moved session record state = .ok begun)
    (addresses : record.Addresses adapter id)
    (notAbsent : state ≠ .absent) (notCreating : state ≠ .creating) :
    (Stage.ended (reconciler.failing final begun phase error).2).Admits adapter permits
      (reconciler.failing final begun phase error).1 := by
  rw [← state_of_moved entered] at notAbsent notCreating
  apply admits_of_coherent_failing
  exact reconciler.coherent_of_failing final phase error
    (addresses_of_moved entered addresses) notAbsent notCreating

/-- A create that fails before the identifier is known leaves a record of which
nothing else is known either. -/
theorem admits_of_create_failing {error : PassError}
    (entered : reconciler.moved session record .creating = .ok begun)
    (blank : record.Blank) :
    (Stage.ended (reconciler.failing final begun .create error).2).Admits adapter permits
      (reconciler.failing final begun .create error).1 := by
  rcases moved_unchanged entered with ⟨sameId, -, sameObserved, sameTags⟩
  rcases reconciler.failing_unchanged final begun .create error with
    ⟨keptId, -, keptObserved, keptTags⟩
  have left : (reconciler.failing final begun .create error).1.Blank :=
    ⟨keptId.trans (sameId.trans blank.localId),
      keptObserved.trans (sameObserved.trans blank.lastObserved),
      keptTags.trans (sameTags.trans blank.tags)⟩
  apply admits_of_coherent_failing
  apply left.coherent adapter
  rcases reconciler.state_of_failing final begun .create error with kept | failed
  · exact .inr (.inl (kept.trans (state_of_moved entered)))
  · exact .inr (.inr failed)

theorem admits_of_fails {stage : Stage} {phase : Phase} {error : PassError}
    (admits : stage.Admits adapter permits record)
    (fails : reconciler.Fails adapter session record stage phase error begun final) :
    (Stage.ended (reconciler.failing final begun phase error).2).Admits adapter permits
      (reconciler.failing final begun phase error).1 := by
  cases fails with
  | create entered _ => exact admits_of_create_failing entered admits.1
  | createAnswer entered _ _ => exact admits_of_create_failing entered admits.1
  | await waits entered _ =>
      cases stage with
      | finish id phase =>
          cases waits
          exact admits_of_moved_failing entered admits.1 nofun nofun
      | finishDelete id =>
          cases waits
          exact admits_of_moved_failing entered admits.1 nofun nofun
      | _ => cases waits
  | applyTags _ =>
      rcases admits with ⟨addresses, -, state⟩
      apply admits_of_coherent_failing
      apply reconciler.coherent_of_failing final phase error addresses
      · rcases state with state | state <;> rw [state] <;> exact nofun
      · rcases state with state | state <;> rw [state] <;> exact nofun
  | readBack entered _ => exact admits_of_moved_failing entered admits.1 nofun nofun
  | vanished entered _ => exact admits_of_moved_failing entered admits.1 nofun nofun
  | refresh entered _ _ observing _ =>
      exact admits_of_moved_failing observing (addresses_of_moved entered admits.1)
        nofun nofun
  | send entered _ => exact admits_of_moved_failing entered admits.1 nofun nofun
  | delete readable _ entered _ _ =>
      exact admits_of_moved_failing entered (addresses_of_checkedId readable) nofun nofun

/-- A pass that converges leaves a record that addresses its resource. -/
theorem admits_of_converged
    (settles : reconciler.moved session record .steady = .ok begun)
    (addresses : record.Addresses adapter id) :
    (Stage.ended .converged).Admits adapter permits begun := by
  have isSteady := state_of_moved settles
  have settled := addresses_of_moved settles addresses
  have left := settled.coherent (isSteady ▸ nofun) (isSteady ▸ nofun)
  exact ⟨left.1, left.2, nofun⟩

/-- Every step of a pass keeps `Stage.Admits`, provided that created identifiers have
the components that the adapter expects. -/
theorem admits_of_step
    (partsFit : ∀ answer desired parts,
      adapter.createdParts answer desired = .ok parts → parts.length = adapter.idArity)
    {standing next : Standing World}
    (admits : standing.stage.Admits adapter permits standing.record)
    (step : reconciler.Step adapter standing next) :
    next.stage.Admits adapter permits next.record := by
  cases step with
  | declined declines => exact admits_of_declines admits declines
  | failed fails => exact admits_of_fails admits fails
  | @begins desired schema diff record session accepts _ =>
      have unknown := checkedId_eq_ok_none_iff.1 accepts.readable
      rcases admits with ⟨coherent, -⟩
      refine ⟨coherent.blank unknown, ?_⟩
      show record.state.canMoveTo .creating = true
      rcases (coherent.unaddressed unknown).1 with state | state | state <;>
        rw [state] <;> decide
  | resumes accepts resumption =>
      rcases RecordState.canMoveTo_of_resumes? resumption with ⟨notDelete, allowed⟩
      exact ⟨addresses_of_checkedId accepts.readable, notDelete, allowed⟩
  | updates accepts resumption =>
      rcases admits with ⟨coherent, -, undeclared, -⟩
      have addresses := addresses_of_checkedId accepts.readable
      exact ⟨addresses, RecordState.canMoveTo_diffing (coherent.of_addresses addresses).1
        accepts.undeleted resumption, undeclared⟩
  | @created desired record begun answer id session final entered _ created =>
      have arity : id.arity = adapter.idArity :=
        partsFit answer desired id.parts (parts_of_createdId created)
      refine ⟨⟨rfl, arity⟩, nofun, ?_⟩
      simp only [state_of_moved entered]
      decide
  | reached entered _ =>
      rcases admits with ⟨addresses, notDelete, -⟩
      exact ⟨addresses_of_moved entered addresses, notDelete, .inl (state_of_moved entered)⟩
  | tagged _ => exact admits
  | @observed id phase record begun settled state session final entered _ settles =>
      have addresses : (begun.withObserved state).Addresses adapter id :=
        ⟨(addresses_of_moved entered admits.1).localId, admits.1.arity⟩
      exact admits_of_converged settles addresses
  | refreshed entered _ _ observing _ =>
      have addresses := addresses_of_moved observing (addresses_of_moved entered admits.1)
      have isObserving := state_of_moved observing
      exact ⟨⟨addresses.localId, addresses.arity⟩, isObserving, admits.2.2⟩
  | gone _ _ _ _ _ loses =>
      refine ⟨⟨rfl, rfl, rfl⟩, ?_⟩
      simp only [Record.clearRemote, state_of_moved loses]
      decide
  | @unchanged schema desired id record compared settled diff session entered _ _ _ settles =>
      have addresses : ({ compared with desired } : Record).Addresses adapter id :=
        ⟨(addresses_of_moved entered admits.1).localId, admits.1.arity⟩
      exact admits_of_converged settles addresses
  | differs entered _ _ _ =>
      exact ⟨addresses_of_moved entered admits.1, state_of_moved entered⟩
  | sentNone entered _ =>
      have addresses := addresses_of_moved entered admits.1
      have isUpdating := state_of_moved entered
      exact ⟨⟨addresses.localId, addresses.arity⟩, nofun, .inr isUpdating⟩
  | sent _ entered _ =>
      have addresses := addresses_of_moved entered admits.1
      refine ⟨⟨addresses.localId, addresses.arity⟩, nofun, ?_⟩
      simp only [state_of_moved entered]
      decide
  | @unknown record session _ =>
      have blank : ({ record.clearRemote with state := .absent } : Record).Blank :=
        ⟨rfl, rfl, rfl⟩
      rcases blank.coherent adapter (.inl rfl) with ⟨coherent, fits⟩
      exact ⟨coherent, fits, nofun⟩
  | resumesDelete readable isPolling =>
      exact ⟨addresses_of_checkedId readable, .inr isPolling⟩
  | deleting readable _ entered _ _ =>
      exact ⟨addresses_of_moved entered (addresses_of_checkedId readable),
        .inl (state_of_moved entered)⟩
  | @deleted id record begun lost session final _ _ loses =>
      have blank : ({ lost.clearRemote with desired := {}, tainted := false } :
          Record).Blank := ⟨rfl, rfl, rfl⟩
      have isAbsent := state_of_moved loses
      rcases blank.coherent adapter (.inl isAbsent) with ⟨coherent, fits⟩
      exact ⟨coherent, fits, nofun⟩

end Reconciler

namespace Pass

variable {World : Type} {adapter : Adapter}

/-- The refusals with which a pass over a coherent record may end: none for a delete,
and for a reconcile none that blames the state unless a delete is pending. -/
def Permits (pass : Pass World adapter) (error : PassError) : Prop :=
  match pass.goal with
  | .reconcile _ => ∀ refusal, error = .invalidState refusal →
      pass.before.state.isDeletePending = true
  | .delete => False

/-- A pass keeps a record coherent and ends with no other refusal than it may. -/
theorem coherent_after
    (partsFit : ∀ answer desired parts,
      adapter.createdParts answer desired = .ok parts → parts.length = adapter.idArity)
    (pass : Pass World adapter) (coherent : pass.before.Coherent)
    (fits : pass.before.Fits adapter) :
    pass.after.Coherent ∧ pass.after.Fits adapter ∧
      ∀ error, pass.outcome = .invalid error → pass.Permits error := by
  have begins : pass.goal.stage.Admits adapter pass.Permits pass.before := by
    cases goal : pass.goal with
    | reconcile desired =>
        refine ⟨coherent, fits, ?_⟩
        simp only [Permits, goal]
        exact ⟨nofun, nofun, fun pending _ _ _ => pending⟩
    | delete => exact ⟨coherent, fits⟩
  exact Reconciler.invariant_of_runFrom
    (fun standing next admits step => Reconciler.admits_of_step partsFit admits step)
    pass.ranFrom begins

end Pass

/-- A delete is pending in two states. -/
theorem RecordState.isDeletePending_iff {state : RecordState} :
    state.isDeletePending = true ↔ state = .deleting ∨ state = .polling .delete := by
  cases state with
  | polling phase => cases phase <;> simp [isDeletePending]
  | _ => simp [isDeletePending]

/-- The records from which a history may start. -/
theorem Record.coherent_of_start {adapter : Adapter} {start : Record}
    (starts : start = {} ∨
      ∃ id : Identifier, id.arity = adapter.idArity ∧ start = .imported id) :
    start.Coherent ∧ start.Fits adapter := by
  rcases starts with rfl | ⟨id, arity, rfl⟩
  · exact Blank.coherent ⟨rfl, rfl, rfl⟩ adapter (.inl rfl)
  · have addresses : (imported id).Addresses adapter id := ⟨rfl, arity⟩
    exact addresses.coherent nofun nofun

/-- No record gets stuck: whatever the outside does in a history of passes over a new
or an imported record, every pass leaves a coherent record, no delete is refused, and
a reconcile is refused for the state of its record only while a delete is pending. -/
theorem History.never_stuck {World : Type} {adapter : Adapter} {start record : Record}
    {passes : List (Pass World adapter)}
    (partsFit : ∀ answer desired parts,
      adapter.createdParts answer desired = .ok parts → parts.length = adapter.idArity)
    (starts : start = {} ∨
      ∃ id : Identifier, id.arity = adapter.idArity ∧ start = .imported id)
    (history : History start passes record) :
    ∀ pass ∈ passes,
      (pass.after.localId = none →
        (pass.after.state = .absent ∨ pass.after.state = .creating ∨
          pass.after.state = .createFailed) ∧
        pass.after.lastObserved = {} ∧ pass.after.tags = .empty) ∧
      (pass.after.localId ≠ none →
        pass.after.state ≠ .absent ∧ pass.after.state ≠ .creating) ∧
      (pass.goal = .delete → ∀ error, pass.outcome ≠ .invalid error) ∧
      (∀ desired refusal, pass.goal = .reconcile desired →
        pass.outcome = .invalid (.invalidState refusal) →
        pass.before.state = .deleting ∨ pass.before.state = .polling .delete) := by
  obtain ⟨-, everywhere⟩ := history.invariant
    (fun record => record.Coherent ∧ record.Fits adapter)
    (fun pass _ known => (pass.coherent_after partsFit known.1 known.2).imp_right And.left)
    (Record.coherent_of_start starts)
  intro pass member
  rcases everywhere pass member with ⟨⟨coherent, fits⟩, -⟩
  rcases pass.coherent_after partsFit coherent fits with ⟨after, -, permitted⟩
  refine ⟨after.unaddressed, after.addressed, ?_, ?_⟩
  · intro isDelete error refused
    have permits := permitted error refused
    rw [Pass.Permits, isDelete] at permits
    exact permits
  · intro desired refusal isReconcile refused
    have permits := permitted _ refused
    rw [Pass.Permits, isReconcile] at permits
    exact RecordState.isDeletePending_iff.1 (permits refusal rfl)

namespace Simulation.Disk

/-- The disk is created but breaks. -/
def breaks : Pass World adapter :=
  .ofEnded reconciler adapter {} (.reconcile (sized 2))
    (world [("Create", [created]), ("Describe", [found 2 "broken"])])
    (by decide +kernel)

/-- The disk has recovered. -/
def recovers : Pass World adapter :=
  .ofEnded reconciler adapter breaks.after (.reconcile (sized 2))
    (world [("Describe", [found 2 "ready", found 2 "ready"])])
    (by decide +kernel)

/-- The disk is lost, and a new one cannot be created. -/
def loses : Pass World adapter :=
  .ofEnded reconciler adapter recovers.after (.reconcile (sized 2))
    (world [("Describe", [missing])])
    (by decide +kernel)

/-- The lost disk is given up. -/
def givesUp : Pass World adapter :=
  .ofEnded reconciler adapter loses.after .delete (world []) (by decide +kernel)

theorem lost_disk_never_stuck :
    [breaks, recovers, loses, givesUp].map (fun pass => pass.after.state) =
      [.createFailed, .steady, .createFailed, .absent] ∧
    ∀ pass ∈ [givesUp, loses, recovers, breaks],
      (pass.after.localId = none →
        (pass.after.state = .absent ∨ pass.after.state = .creating ∨
          pass.after.state = .createFailed) ∧
        pass.after.lastObserved = {} ∧ pass.after.tags = .empty) ∧
      (pass.after.localId ≠ none →
        pass.after.state ≠ .absent ∧ pass.after.state ≠ .creating) ∧
      (pass.goal = .delete → ∀ error, pass.outcome ≠ .invalid error) ∧
      (∀ desired refusal, pass.goal = .reconcile desired →
        pass.outcome = .invalid (.invalidState refusal) →
        pass.before.state = .deleting ∨ pass.before.state = .polling .delete) := by
  have partsFit : ∀ answer desired parts,
      adapter.createdParts answer desired = .ok parts →
        parts.length = adapter.idArity := by
    intro answer desired parts found
    cases known : stringMember answer "InstanceId" with
    | error error => simp [adapter, plain, known, Except.map] at found
    | ok name =>
        simp only [adapter, plain, known, Except.map, Except.ok.injEq] at found
        rw [← found]
        rfl
  have history : History {} [givesUp, loses, recovers, breaks] givesUp.after :=
    .cons (.cons (.cons (.cons .nil breaks rfl) recovers rfl) loses rfl) givesUp rfl
  exact ⟨by decide +kernel, History.never_stuck partsFit (.inl rfl) history⟩

end Simulation.Disk

end ControlLoop
