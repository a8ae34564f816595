import ControlLoop.Proofs.Coherence

/-!
# What outcomes report

A pass returns a record and an outcome, and the two never contradict each other,
whatever record the pass was given: the state of the record tells in which phase the
pass failed or was stopped, and whether there is a resource at all.

Behind this stands one fact of the lifecycle: from every state in which a phase can be
stopped, the state that records its failure can be entered
(`RecordState.canMoveTo_failed`).  So noting a failure is never refused.

Main statement: `Pass.reflects_outcome`.
-/

namespace ControlLoop

/-- The states in which a pass may be stopped in a phase. -/
def Phase.openStates : Phase → List RecordState
  | .create => [.creating, .polling .create, .observing]
  | .update => [.observing, .updating, .polling .update]
  | .delete => [.deleting, .polling .delete]

/-- The record is what an outcome reports. -/
def Record.Reflects (record : Record) : Outcome → Prop
  | .converged => record.state = .steady ∧ record.localId ≠ none
  | .deleted => record.state = .absent ∧ record.localId = none ∧
      record.lastObserved = {} ∧ record.tags = .empty
  | .failed phase _ => record.state = .failed phase
  | .timedOut phase _ => record.state ∈ phase.openStates
  | .cancelled phase => record.state ∈ phase.openStates
  | _ => True

namespace RecordState

/-- The failure of a phase can be noted wherever the phase can be stopped. -/
theorem canMoveTo_failed {state : RecordState} {phase : Phase}
    (isOpen : state ∈ phase.openStates) : state.canMoveTo (.failed phase) = true := by
  cases phase <;> simp only [Phase.openStates, List.mem_cons, List.not_mem_nil, or_false]
    at isOpen
  · rcases isOpen with rfl | rfl | rfl <;> decide
  · rcases isOpen with rfl | rfl | rfl <;> decide
  · rcases isOpen with rfl | rfl <;> decide

theorem polling_mem_openStates (phase : Phase) : polling phase ∈ phase.openStates := by
  cases phase <;> decide

/-- A resource is read back in the phases of a create or an update only. -/
theorem observing_mem_openStates {phase : Phase} (notDelete : phase ≠ .delete) :
    observing ∈ phase.openStates := by
  cases phase with
  | create => decide
  | update => decide
  | delete => exact absurd rfl notDelete

end RecordState

namespace Stage

/-- What holds of any record at a stage: whether it addresses a resource, and in which
states the stage may be stopped. -/
def Sustains (record : Record) : Stage → Prop
  | .reconcile _ => True
  | .create _ => True
  | .update _ _ _ => record.localId ≠ none
  | .compareAndSend _ _ _ => record.localId ≠ none
  | .sendUpdates _ _ _ => record.localId ≠ none
  | .finish _ phase => record.localId ≠ none ∧ phase ≠ .delete
  | .tagAndObserve _ phase =>
      record.localId ≠ none ∧ phase ≠ .delete ∧ record.state ∈ phase.openStates
  | .observe _ phase => record.localId ≠ none ∧ phase ≠ .delete
  | .delete => True
  | .finishDelete _ => True
  | .ended outcome => record.Reflects outcome

/-- The stages that only a delete goes through. -/
def Deletes : Stage → Prop
  | .delete => True
  | .finishDelete _ => True
  | .ended outcome => outcome = .deleted
  | _ => False

end Stage

namespace Reconciler

variable {World : Type} {reconciler : Reconciler World} {adapter : Adapter}
variable {session final : Session World} {record begun : Record} {stage : Stage}

/-- A record that addresses a resource still does after a move. -/
theorem known_of_moved {state : RecordState}
    (entered : reconciler.moved session record state = .ok begun)
    (known : record.localId ≠ none) : begun.localId ≠ none := by
  rwa [(moved_unchanged entered).1]

/-- A stage that ends a pass by itself neither reaches its goal nor fails. -/
theorem reflects_of_declines {outcome : Outcome} {left : Record}
    (declines : reconciler.Declines adapter session record stage outcome left) :
    left.Reflects outcome := by
  cases declines <;> trivial

/-- A failed step leaves what it reports, if the phase could be stopped where it
failed. -/
theorem reflects_of_failing (session : Session World) {phase : Phase} (error : PassError)
    (isOpen : record.state ∈ phase.openStates) :
    (reconciler.failing session record phase error).1.Reflects
      (reconciler.failing session record phase error).2 := by
  rcases reconciler.failing_cases session record phase error with
    ⟨-, outcome, state⟩ | ⟨-, -, outcome, state⟩ | ⟨-, -, outcome, state⟩
  · rw [outcome, Record.Reflects, state]
    exact isOpen
  · rw [outcome, Record.Reflects, state]
    exact isOpen
  · rw [outcome, Record.Reflects, state, if_pos (RecordState.canMoveTo_failed isOpen)]

/-- Every step fails in a state in which its phase can be stopped. -/
theorem openState_of_fails {phase : Phase} {error : PassError}
    (sustains : stage.Sustains record)
    (fails : reconciler.Fails adapter session record stage phase error begun final) :
    begun.state ∈ phase.openStates := by
  cases fails with
  | create entered _ => simp [state_of_moved entered, Phase.openStates]
  | createAnswer entered _ _ => simp [state_of_moved entered, Phase.openStates]
  | await _ entered _ =>
      rw [state_of_moved entered]
      exact RecordState.polling_mem_openStates phase
  | applyTags _ => exact sustains.2.2
  | readBack entered _ =>
      rw [state_of_moved entered]
      exact RecordState.observing_mem_openStates sustains.2
  | vanished entered _ =>
      rw [state_of_moved entered]
      exact RecordState.observing_mem_openStates sustains.2
  | refresh _ _ _ observing _ => simp [state_of_moved observing, Phase.openStates]
  | send entered _ => simp [state_of_moved entered, Phase.openStates]
  | delete _ _ entered _ _ => simp [state_of_moved entered, Phase.openStates]

/-- Every step of a pass keeps `Stage.Sustains`, whatever record the pass is given. -/
theorem sustains_of_step {standing next : Standing World}
    (sustains : standing.stage.Sustains standing.record)
    (step : reconciler.Step adapter standing next) :
    next.stage.Sustains next.record := by
  cases step with
  | declined declines => exact reflects_of_declines declines
  | failed fails => exact reflects_of_failing _ _ (openState_of_fails sustains fails)
  | begins _ _ => trivial
  | resumes accepts resumption =>
      have known := (checkedId_eq_ok_some_iff.1 accepts.readable).1
      exact ⟨by simp [known], (RecordState.canMoveTo_of_resumes? resumption).1⟩
  | updates accepts _ =>
      have known := (checkedId_eq_ok_some_iff.1 accepts.readable).1
      simp [Stage.Sustains, known]
  | created _ _ _ => exact ⟨nofun, nofun⟩
  | @reached id phase record begun session final entered _ =>
      refine ⟨known_of_moved entered sustains.1, sustains.2, ?_⟩
      simp only [state_of_moved entered]
      exact RecordState.polling_mem_openStates phase
  | tagged _ => exact ⟨sustains.1, sustains.2.1⟩
  | observed entered _ settles =>
      have known := known_of_moved entered sustains.1
      exact ⟨state_of_moved settles, known_of_moved settles known⟩
  | refreshed entered _ _ observing _ =>
      have known := known_of_moved observing (known_of_moved entered sustains)
      exact known
  | gone _ _ _ _ _ _ => trivial
  | unchanged entered _ _ _ settles =>
      have known := known_of_moved entered sustains
      exact ⟨state_of_moved settles, known_of_moved settles known⟩
  | differs entered _ _ _ => exact known_of_moved entered sustains
  | sentNone entered _ =>
      have known := known_of_moved entered sustains
      refine ⟨known, nofun, ?_⟩
      simp only [state_of_moved entered]
      decide
  | sent _ entered _ =>
      have known := known_of_moved entered sustains
      exact ⟨known, nofun⟩
  | unknown _ => exact ⟨rfl, rfl, rfl, rfl⟩
  | resumesDelete _ _ => trivial
  | deleting _ _ _ _ _ => trivial
  | deleted _ _ loses =>
      have isAbsent := state_of_moved loses
      exact ⟨isAbsent, rfl, rfl, rfl⟩

/-- A pass comes to a stage of a delete from another one only. -/
theorem deletes_of_step {standing next : Standing World}
    (step : reconciler.Step adapter standing next) (deletes : next.stage.Deletes) :
    standing.stage.Deletes := by
  cases step with
  | declined declines => exact absurd deletes declines.ne_deleted
  | failed _ => exact absurd deletes (failing_ne_deleted _ _ _ _ _)
  | unknown _ => trivial
  | resumesDelete _ _ => trivial
  | deleting _ _ _ _ _ => trivial
  | deleted _ _ _ => trivial
  | _ => cases deletes

end Reconciler

/-- Only a pass that is asked to delete ends as deleted. -/
theorem Pass.goal_of_deleted {World : Type} {adapter : Adapter} {pass : Pass World adapter}
    (deleted : pass.outcome = .deleted) : pass.goal = .delete := by
  cases goal : pass.goal with
  | delete => rfl
  | reconcile desired =>
      have kept (standing next : Standing World) (apart : ¬standing.stage.Deletes)
          (step : pass.reconciler.Step adapter standing next) : ¬next.stage.Deletes :=
        fun deletes => apart (Reconciler.deletes_of_step step deletes)
      have begins : ¬pass.goal.stage.Deletes := by
        rw [goal]
        exact id
      exact absurd deleted (Reconciler.invariant_of_runFrom kept pass.ranFrom begins)

/-- Outcome and record always agree: whatever record a pass is given and whatever the
outside does, the pass leaves the record that its outcome reports. -/
theorem Pass.reflects_outcome {World : Type} {adapter : Adapter}
    (pass : Pass World adapter) : pass.after.Reflects pass.outcome := by
  have begins : pass.goal.stage.Sustains pass.before := by
    cases pass.goal <;> trivial
  exact Reconciler.invariant_of_runFrom
    (fun standing next => Reconciler.sustains_of_step) pass.ranFrom begins

end ControlLoop
