import ControlLoop.Proofs.Refusal

/-!
# Records for the next pass

What a pass leaves is what the next one starts from.

A confirmed delete leaves a blank record.  A delete that has nothing to address only
forgets what was observed: a taint and a desired state stay in the record.

An outcome that may be retried leaves a record in a state from which a reconcile can start,
whatever record the pass was given (`Record.Ready`).  It leaves a usable record, too, but
for one failure, which is fatal and may nevertheless be retried: that of a removal of tags.

Main statements: `Pass.cleans_iff`, `Pass.retries_iff`.
-/

namespace ControlLoop

/-! ## After a delete -/

/-- What a delete leaves when nothing was known to delete, and when a resource was. -/
inductive Record.LeftByDelete (before : Record) : Record → Prop where
  | unaddressed : before.localId = none →
      LeftByDelete before { before.clearRemote with state := .absent }
  | confirmed {updatedAt : Option Timestamp} : before.localId ≠ none →
      LeftByDelete before { updatedAt }

/-- What a delete of a record knows at a stage. -/
def Stage.Clears (before record : Record) : Stage → Prop
  | .delete => record = before
  | .finishDelete _ => before.localId ≠ none
  | .ended outcome => outcome = .deleted → before.LeftByDelete record
  | _ => True

namespace Reconciler

variable {World : Type} {reconciler : Reconciler World} {adapter : Adapter}
variable {session final : Session World} {before record begun : Record} {stage : Stage}

theorem clears_of_step {standing next : Standing World}
    (clears : standing.stage.Clears before standing.record)
    (step : reconciler.Step adapter standing next) :
    next.stage.Clears before next.record := by
  cases step with
  | declined declines => exact fun deleted => absurd deleted declines.ne_deleted
  | failed _ => exact fun deleted => absurd deleted (failing_ne_deleted _ _ _ _ _)
  | observed _ _ _ => exact nofun
  | unchanged _ _ _ _ _ => exact nofun
  | unknown checked =>
      intro _
      cases clears
      exact .unaddressed (checkedId_eq_ok_none_iff.1 checked)
  | resumesDelete checked _ =>
      cases clears
      exact localId_ne_none_of_checkedId checked
  | deleting checked _ _ _ _ =>
      cases clears
      exact localId_ne_none_of_checkedId checked
  | @deleted _ _ _ lost _ _ _ _ loses =>
      intro _
      have isAbsent : lost.state = .absent := state_of_moved loses
      have blank : ({ lost.clearRemote with desired := {}, tainted := false } : Record) =
          { updatedAt := lost.updatedAt } := by
        rw [Record.clearRemote, isAbsent]
      simp only [blank]
      exact .confirmed clears
  | _ => trivial

end Reconciler

namespace Pass

variable {World : Type} {adapter : Adapter} {pass : Pass World adapter}

theorem leftByDelete (deleted : pass.outcome = .deleted) :
    pass.before.LeftByDelete pass.after := by
  have begins : pass.goal.stage.Clears pass.before pass.before := by
    cases pass.goal <;> trivial
  exact Reconciler.invariant_of_runFrom (fun _ _ => Reconciler.clears_of_step) pass.ranFrom
    begins deleted

/-- A delete that reaches its goal leaves a blank record exactly when the record addressed
a resource, or was untainted and held no desired state.  The record cannot be reconciled
again exactly when it addressed nothing and was tainted. -/
theorem cleans_iff (deleted : pass.outcome = .deleted) :
    (pass.after = { updatedAt := pass.after.updatedAt } ↔
      pass.before.localId ≠ none ∨
        (pass.before.tainted = false ∧ pass.before.desired = {})) ∧
    ∀ (next : Pass World adapter) (desired : DesiredState),
      next.before = pass.after → next.goal = .reconcile desired →
        (next.outcome = .unusable ↔
          pass.before.localId = none ∧ pass.before.tainted = true) := by
  have left := leftByDelete deleted
  generalize pass.after = after at left
  cases left with
  | unaddressed unknown =>
      constructor
      · constructor
        · intro blank
          right
          constructor
          · exact congrArg Record.tainted blank
          · exact congrArg Record.desired blank
        · rintro (known | ⟨untainted, undesired⟩)
          · exact absurd unknown known
          · rw [Record.clearRemote, untainted, undesired]
      · intro next desired continues goal
        rw [unusable_iff goal, continues]
        exact ⟨fun tainted => ⟨unknown, tainted⟩, fun refused => refused.2⟩
  | confirmed known =>
      constructor
      · exact ⟨fun _ => .inl known, fun _ => rfl⟩
      · intro next desired continues goal
        rw [unusable_iff goal, continues]
        constructor
        · intro tainted
          cases tainted
        · exact fun refused => absurd refused.1 known

end Pass

namespace Simulation.Disk

/-- The remote refuses for good. -/
def forbidden : Entry where
  answer := .error (.api "AuthFailure" "signature rejected" none)

/-- The disk is created, but its status must not be read. -/
def locksOut : Pass World adapter :=
  .ofEnded reconciler adapter {} (.reconcile (sized 2))
    (world [("Create", [created]), ("Describe", [forbidden])]) (by decide +kernel)

/-- The disk is deleted. -/
def removes : Pass World adapter :=
  .ofEnded reconciler adapter locksOut.after .delete
    (world [("Delete", [accepted]), ("Describe", [missing])]) (by decide +kernel)

theorem removed_disk_cleans_iff :
    removes.before.tainted = true ∧ removes.outcome = .deleted ∧
    (removes.after = { updatedAt := removes.after.updatedAt } ↔
      removes.before.localId ≠ none ∨
        (removes.before.tainted = false ∧ removes.before.desired = {})) ∧
    ∀ (next : Pass World adapter) (desired : DesiredState),
      next.before = removes.after → next.goal = .reconcile desired →
        (next.outcome = .unusable ↔
          removes.before.localId = none ∧ removes.before.tainted = true) := by
  have deleted : removes.outcome = .deleted := by decide +kernel
  exact ⟨by decide +kernel, deleted, Pass.cleans_iff deleted⟩

/-- No disk may be created. -/
def forbids : Pass World adapter :=
  .ofEnded reconciler adapter {} (.reconcile (sized 2)) (world [("Create", [forbidden])])
    (by decide +kernel)

/-- The disk that was not created is deleted. -/
def abandons : Pass World adapter :=
  .ofEnded reconciler adapter forbids.after .delete (world []) (by decide +kernel)

/-- A disk is wanted after all. -/
def reconsiders : Pass World adapter :=
  .ofEnded reconciler adapter abandons.after (.reconcile (sized 2))
    (world [("Create", [created]), ("Describe", [found 2 "ready", found 2 "ready"])])
    (by decide +kernel)

/-- A deleted record that is not clean, and is refused by the next reconcile. -/
theorem abandoned_disk_stays_tainted :
    abandons.outcome = .deleted ∧
      abandons.after ≠ { updatedAt := abandons.after.updatedAt } ∧
      abandons.after.tainted = true ∧ abandons.after.desired = {} ∧
      reconsiders.before = abandons.after ∧ reconsiders.outcome = .unusable := by
  decide +kernel

end Simulation.Disk

/-! ## After an outcome that may be retried -/

/-- A reconcile can start from the state of the record. -/
structure Record.Ready (record : Record) : Prop where
  undeleted : record.state.isDeletePending = false
  creatable : record.localId = none → record.state.canMoveTo .creating = true
  comparable : record.localId ≠ none → record.state.resumes? = none →
    record.state.canMoveTo .diffing = true

/-- A record that is left where a create or an update was stopped is ready. -/
theorem Record.Ready.of_phase {record : Record} {phase : Phase}
    (notDelete : phase ≠ .delete)
    (state : record.state ∈ phase.openStates ∨ record.state = .failed phase)
    (creatable : record.localId = none → record.state.canMoveTo .creating = true) :
    record.Ready := by
  have settled : record.state ≠ .absent ∧ record.state.isDeletePending = false := by
    cases phase with
    | create =>
        simp only [Phase.openStates, List.mem_cons, List.not_mem_nil, or_false] at state
        rcases state with (state | state | state) | state <;> rw [state] <;> decide
    | update =>
        simp only [Phase.openStates, List.mem_cons, List.not_mem_nil, or_false] at state
        rcases state with (state | state | state) | state <;> rw [state] <;> decide
    | delete => exact absurd rfl notDelete
  exact ⟨settled.2, creatable,
    fun _ noResumption => RecordState.canMoveTo_diffing settled.1 settled.2 noResumption⟩

namespace Stage

/-- What a record looks like at a stage of a reconcile that cannot be refused for its
state. -/
def Welcomes (record : Record) : Stage → Prop
  | .reconcile _ => record.Ready
  | .update _ _ _ => record.state.canMoveTo .diffing = true
  | .compareAndSend _ _ _ => record.state.canMoveTo .diffing = true
  | .ended outcome => ∀ refusal, outcome ≠ .invalid (.invalidState refusal)
  | stage => stage.Commits record

/-- An outcome that may be retried leaves a record that is ready for it. -/
def Retries (record : Record) : Stage → Prop
  | .ended outcome => outcome.isRetryable = true → record.Ready
  | _ => True

end Stage

namespace Reconciler

variable {World : Type} {reconciler : Reconciler World} {adapter : Adapter}
variable {session final : Session World} {record begun : Record} {stage : Stage}

theorem welcomes_of_commits (commits : stage.Commits record) : stage.Welcomes record := by
  cases stage with
  | update _ _ _ => exact absurd commits id
  | compareAndSend _ _ _ => exact absurd commits id
  | reconcile _ => exact absurd commits id
  | ended outcome =>
      rintro refusal rfl
      exact commits trivial
  | _ => exact commits

theorem canEnter_of_welcomes {state : RecordState} (welcomes : stage.Welcomes record)
    (entry : stage.entry? = some state) : record.state.canMoveTo state = true := by
  cases stage with
  | update schema desired id =>
      cases entry
      exact welcomes
  | compareAndSend schema desired id =>
      cases entry
      exact welcomes
  | reconcile _ => cases entry
  | ended _ => cases entry
  | _ =>
      apply canEnter_of_commits _ entry
      exact welcomes

/-- A reconcile of a record that is ready is never refused for its state. -/
theorem welcomes_of_step {standing next : Standing World}
    (welcomes : standing.stage.Welcomes standing.record)
    (step : reconciler.Step adapter standing next) :
    next.stage.Welcomes next.record := by
  have committed (commits : standing.stage.Commits standing.record) :
      next.stage.Welcomes next.record :=
    welcomes_of_commits (commits_of_step commits step)
  cases step with
  | declined declines =>
      intro refusal outcome
      cases declines with
      | refused entry refused =>
          exact moved_ne_error (canEnter_of_welcomes welcomes entry) refused
      | refusedDelete _ _ _ => exact welcomes
      | deletePending pending => cases pending.symm.trans welcomes.undeleted
      | _ => cases outcome
  | failed _ => exact fun refusal => failing_ne_invalid _ _ _ _ _ _
  | begins accepts _ =>
      exact welcomes.creatable (checkedId_eq_ok_none_iff.1 accepts.readable)
  | resumes _ resumption => exact RecordState.canMoveTo_of_resumes? resumption
  | updates accepts noResumption =>
      have known := localId_ne_none_of_checkedId accepts.readable
      exact welcomes.comparable known noResumption
  | refreshed _ _ _ entered _ =>
      have allowed := canMoveTo_of_moved entered .diffing rfl
      exact allowed
  | gone _ _ _ _ _ loses =>
      have allowed := canMoveTo_of_moved loses .creating rfl
      exact allowed
  | observed _ _ _ =>
      intro refusal outcome
      cases outcome
  | unchanged _ _ _ _ _ =>
      intro refusal outcome
      cases outcome
  | differs entered _ _ _ => exact canMoveTo_of_moved entered .updating rfl
  | unknown _ => exact absurd welcomes id
  | resumesDelete _ _ => exact absurd welcomes id
  | deleting _ _ _ _ _ => exact absurd welcomes id
  | _ => exact committed welcomes

/-- A step of a reconcile fails where a resource is known, or where it is being
created. -/
theorem origin_of_fails {phase : Phase} {error : PassError}
    (sustains : stage.Sustains record) (apart : ¬stage.Deletes)
    (fails : reconciler.Fails adapter session record stage phase error begun final) :
    phase ≠ .delete ∧
      (begun.localId = none → phase = .create ∧ begun.state = .creating) := by
  cases fails with
  | create entered _ => exact ⟨nofun, fun _ => ⟨rfl, state_of_moved entered⟩⟩
  | createAnswer entered _ _ => exact ⟨nofun, fun _ => ⟨rfl, state_of_moved entered⟩⟩
  | await waits entered _ =>
      cases stage with
      | finish id phase =>
          cases waits
          have known := known_of_moved entered sustains.1
          exact ⟨sustains.2, fun unknown => absurd unknown known⟩
      | finishDelete _ => exact absurd trivial apart
      | _ => cases waits
  | applyTags _ => exact ⟨sustains.2.1, fun unknown => absurd unknown sustains.1⟩
  | readBack entered _ =>
      have known := known_of_moved entered sustains.1
      exact ⟨sustains.2, fun unknown => absurd unknown known⟩
  | vanished entered _ =>
      have known := known_of_moved entered sustains.1
      exact ⟨sustains.2, fun unknown => absurd unknown known⟩
  | refresh compares _ _ entered _ =>
      have known := known_of_moved entered (known_of_moved compares sustains)
      exact ⟨nofun, fun unknown => absurd unknown known⟩
  | send entered _ =>
      have known := known_of_moved entered sustains
      exact ⟨nofun, fun unknown => absurd unknown known⟩
  | delete _ _ _ _ _ => exact absurd trivial apart

theorem ready_of_fails {phase : Phase} {error : PassError}
    (sustains : stage.Sustains record) (apart : ¬stage.Deletes)
    (fails : reconciler.Fails adapter session record stage phase error begun final) :
    (reconciler.failing final begun phase error).1.Ready := by
  have isOpen := openState_of_fails sustains fails
  rcases origin_of_fails sustains apart fails with ⟨notDelete, created⟩
  -- without an identifier the record is still in `creating` or already in `createFailed`
  have sameId := (reconciler.failing_unchanged final begun phase error).1
  rcases reconciler.state_of_failing final begun phase error with state | state
  · apply Record.Ready.of_phase notDelete
    · rw [state]
      exact .inl isOpen
    · intro unknown
      rw [state, (created (sameId.symm.trans unknown)).2]
      decide
  · apply Record.Ready.of_phase notDelete
    · exact .inr state
    · intro unknown
      rw [state, (created (sameId.symm.trans unknown)).1]
      decide

theorem retries_of_step {standing next : Standing World}
    (sustains : standing.stage.Sustains standing.record) (apart : ¬standing.stage.Deletes)
    (step : reconciler.Step adapter standing next) : next.stage.Retries next.record := by
  cases step with
  | declined declines => cases declines <;> exact nofun
  | failed fails => exact fun _ => ready_of_fails sustains apart fails
  | observed _ _ _ => exact nofun
  | unchanged _ _ _ _ _ => exact nofun
  | unknown _ => exact nofun
  | deleted _ _ _ => exact nofun
  | _ => trivial

end Reconciler

/-- The removal of tags has failed fatally. -/
def Outcome.IsFatalRemoval (outcome : Outcome) : Prop :=
  ∃ phase replaced resource operation source,
    outcome = .failed phase (.tags ⟨.delete replaced, resource, .fatal operation source⟩)

theorem CallError.not_isRetryable_of_isFatal {error : CallError}
    (fatal : error.isFatal = true) : error.isRetryable = false := by
  rcases CallError.conclusive_of_isFatal fatal with ⟨uncancelled, inTime⟩
  rw [isRetryable, uncancelled, inTime, Bool.or_false]

/-- A fatal failure may be retried only if it is one of a removal of tags. -/
theorem PassError.eq_of_isFatal {error : PassError} (fatal : error.isFatal = true)
    (retryable : error.isRetryable = true) :
    ∃ replaced resource operation source,
      error = .tags ⟨.delete replaced, resource, .fatal operation source⟩ := by
  cases error with
  | call error => cases retryable.symm.trans (CallError.not_isRetryable_of_isFatal fatal)
  | poll error =>
      cases error with
      | read operation source =>
          cases retryable.symm.trans (CallError.not_isRetryable_of_isFatal fatal)
      | _ => cases fatal
  | tags error =>
      rcases error with ⟨step, resource, source⟩
      cases source with
      | fatal operation source =>
          cases step with
          | delete replaced => exact ⟨replaced, resource, operation, source, rfl⟩
          | _ => cases retryable
      | _ => cases fatal
  | _ => cases fatal

theorem Outcome.isFatal_iff_of_isRetryable {outcome : Outcome}
    (retryable : outcome.isRetryable = true) :
    outcome.isFatal = true ↔ outcome.IsFatalRemoval := by
  constructor
  · intro fatal
    cases outcome with
    | failed phase error =>
        rcases PassError.eq_of_isFatal fatal retryable with
          ⟨replaced, resource, operation, source, rfl⟩
        exact ⟨phase, replaced, resource, operation, source, rfl⟩
    | _ => cases fatal
  · rintro ⟨phase, replaced, resource, operation, source, rfl⟩
    rfl

namespace Pass

variable {World : Type} {adapter : Adapter} {pass : Pass World adapter}
variable {desired : DesiredState}

theorem ready_after (goal : pass.goal = .reconcile desired)
    (retryable : pass.outcome.isRetryable = true) : pass.after.Ready := by
  have kept (standing next : Standing World)
      (known : standing.stage.Sustains standing.record ∧ ¬standing.stage.Deletes ∧
        standing.stage.Retries standing.record)
      (step : pass.reconciler.Step adapter standing next) :
      next.stage.Sustains next.record ∧ ¬next.stage.Deletes ∧
        next.stage.Retries next.record := by
    rcases known with ⟨sustains, apart, -⟩
    exact ⟨Reconciler.sustains_of_step sustains step,
      fun deletes => apart (Reconciler.deletes_of_step step deletes),
      Reconciler.retries_of_step sustains apart step⟩
  have ran := pass.ranFrom
  rw [goal] at ran
  have ended := Reconciler.invariant_of_runFrom kept ran ⟨trivial, id, trivial⟩
  exact ended.2.2 retryable

theorem outcome_ne_invalidState (goal : pass.goal = .reconcile desired)
    (ready : pass.before.Ready) (refusal : InvalidState) :
    pass.outcome ≠ .invalid (.invalidState refusal) := by
  have ran := pass.ranFrom
  rw [goal] at ran
  exact Reconciler.invariant_of_runFrom (fun _ _ => Reconciler.welcomes_of_step) ran ready
    refusal

/-- A reconcile that may be retried leaves a record from whose state a reconcile can start.
The record is tainted, and the next reconcile refuses it, exactly when the removal of tags
has failed fatally. -/
theorem retries_iff (goal : pass.goal = .reconcile desired)
    (untainted : pass.before.tainted = false)
    (retryable : pass.outcome.isRetryable = true) :
    pass.after.state ≠ .deleting ∧ pass.after.state ≠ .polling .delete ∧
    (pass.after.tainted = true ↔ pass.outcome.IsFatalRemoval) ∧
    ∀ (again : Pass World adapter) (wanted : DesiredState),
      again.before = pass.after → again.goal = .reconcile wanted →
        (∀ refusal, again.outcome ≠ .invalid (.invalidState refusal)) ∧
        (again.outcome = .unusable ↔ pass.outcome.IsFatalRemoval) := by
  have ready := ready_after goal retryable
  have tainted : pass.after.tainted = true ↔ pass.outcome.IsFatalRemoval := by
    have notDeleted : pass.outcome ≠ .deleted := by
      intro deleted
      cases goal.symm.trans (goal_of_deleted deleted)
    rw [pass.tainted_after notDeleted, untainted, Bool.false_or]
    exact Outcome.isFatal_iff_of_isRetryable retryable
  have undeleted : ¬(pass.after.state = .deleting ∨
      pass.after.state = .polling .delete) := by
    rw [← RecordState.isDeletePending_iff, ready.undeleted]
    exact nofun
  rw [not_or] at undeleted
  refine ⟨undeleted.1, undeleted.2, tainted, fun again wanted continues goal => ⟨?_, ?_⟩⟩
  · exact outcome_ne_invalidState goal (continues ▸ ready)
  · rw [unusable_iff goal, continues, tainted]

end Pass

namespace Simulation.Server

/-- The new tag of the server is set, but the removal of the old one is rejected. -/
def keepsOwner : Pass World adapter :=
  .ofEnded reconciler adapter known (.reconcile disowned)
    (world [("Describe", [found 2 "ready"]),
      ("DescribeResourceTags", [tagged "owner" "red"]),
      ("TagResources", [accepted]), ("UnTagResources", [rejected])])
    (by decide +kernel)

/-- The answer to a read of the tags while the server has both. -/
def bothTagged : Entry where
  answer := .ok (.object [("Tags", .array [
    .object [("TagKey", .string "owner"), ("TagValue", .string "red")],
    .object [("TagKey", .string "team"), ("TagValue", .string "blue")]])])

/-- Now the old tag is removed. -/
def dropsOwner : Pass World adapter :=
  .ofEnded reconciler adapter keepsOwner.after (.reconcile disowned)
    (world [("Describe", [found 2 "ready", found 2 "ready"]),
      ("DescribeResourceTags", [bothTagged, tagged "team" "blue"]),
      ("UnTagResources", [accepted])])
    (by decide +kernel)

theorem untagged_server_retries_iff :
    [keepsOwner, dropsOwner].map (fun pass => pass.outcome.name) =
      ["update_failed", "converged"] ∧
    keepsOwner.after.state ≠ .deleting ∧ keepsOwner.after.state ≠ .polling .delete ∧
    (keepsOwner.after.tainted = true ↔ keepsOwner.outcome.IsFatalRemoval) ∧
    ∀ (again : Pass World adapter) (wanted : DesiredState),
      again.before = keepsOwner.after → again.goal = .reconcile wanted →
        (∀ refusal, again.outcome ≠ .invalid (.invalidState refusal)) ∧
        (again.outcome = .unusable ↔ keepsOwner.outcome.IsFatalRemoval) := by
  have retries := Pass.retries_iff (rfl : keepsOwner.goal = .reconcile disowned) rfl
    (by decide +kernel)
  exact ⟨by decide +kernel, retries⟩

/-- An outcome that may be retried, and a retry that is refused. -/
theorem retagged_server_is_refused :
    (retags.goal = .reconcile disowned ∧ retags.before.tainted = false ∧
      retagsAgain.before = retags.after ∧ retagsAgain.goal = .reconcile disowned) ∧
    retags.outcome.isRetryable = true ∧ retags.after.tainted = true ∧
      retagsAgain.outcome = .unusable :=
  ⟨⟨rfl, rfl, Pass.before_ofEnded _, rfl⟩, by decide +kernel⟩

end Simulation.Server

end ControlLoop
