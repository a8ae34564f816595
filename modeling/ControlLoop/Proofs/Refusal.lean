import ControlLoop.Proofs.Agreement
import ControlLoop.Proofs.Coherence
import ControlLoop.Proofs.Taint

/-!
# Refused passes

A pass may refuse what it is asked: because of the record, its identifier, its state or its
taint, because of a field that the schema does not have, or because of a field that is
frozen.  Most refusals come before anything is sent.  The rest of a pass could refuse only
where it enters a state or compares again, and there it never does, whatever record the pass
was given: a step that has begun leads to states that the next one may enter
(`Stage.Commits`), and what could be compared once can be compared with any other state.
So only a frozen field can be found late, after the refresh, and until then the pass has
only looked.

Main statement: `Pass.refuses_quietly`.
-/

namespace ControlLoop

/-- The pass was not willing to do what it was asked. -/
def Outcome.Refuses : Outcome → Prop
  | .frozen _ => True
  | .invalid _ => True
  | .unusable => True
  | _ => False

namespace Event

/-- An attempt to refresh a resource or to list its tags, or a sleep between attempts. -/
def IsLook (event : Event) : Prop :=
  event.IsCall .refresh ∨ event.IsTagRead

end Event

/-- A resource can be read back after every wait but that for its end. -/
theorem RecordState.polling_canMoveTo_observing {phase : Phase}
    (notDelete : phase ≠ .delete) :
    (polling phase).canMoveTo .observing = true := by
  cases phase with
  | create => rfl
  | update => rfl
  | delete => exact absurd rfl notDelete

namespace Stage

/-- The stages at which a pass may not have done anything yet. -/
def Opens : Stage → Prop
  | .reconcile _ => True
  | .create _ => True
  | .update _ _ _ => True
  | .delete => True
  | .ended _ => True
  | _ => False

/-- The stages at which a pass no longer refuses: the state that comes next may be
entered. -/
def Commits (record : Record) : Stage → Prop
  | .create _ => record.state.canMoveTo .creating = true
  | .sendUpdates _ _ _ => record.state.canMoveTo .updating = true
  | .finish _ phase => phase ≠ .delete ∧ record.state.canMoveTo (.polling phase) = true
  | .tagAndObserve _ phase => phase ≠ .delete ∧ record.state.canMoveTo .observing = true
  | .observe _ phase => phase ≠ .delete ∧ record.state.canMoveTo .observing = true
  | .finishDelete _ => record.state.canMoveTo (.polling .delete) = true
  | .ended outcome => ¬outcome.Refuses
  | _ => False

end Stage

/-- How a pass over a record goes on until it refuses or no longer can. -/
inductive Standing.Proceeds {World : Type} (before : Record) : Standing World → Prop where
  /-- Nothing has been done. -/
  | quiet {stage : Stage} {record : Record} {session : Session World} :
      stage.Opens → session.journal = [] → before.Untouched record →
      (stage = .ended .unusable → before.tainted = true) →
      Proceeds before ⟨stage, record, session⟩
  /-- The resource has been refreshed and can be compared. -/
  | looked {schema : ResourceSchema} {desired : DesiredState} {id : Identifier}
      {record : Record} {session : Session World} {diff : FieldDiff} :
      (∀ event ∈ session.journal, event.IsLook) → before.Retains record →
      record.state = .observing → Reconciler.fieldDiff record desired schema = .ok diff →
      Proceeds before ⟨.compareAndSend schema desired id, record, session⟩
  /-- The refresh has shown that a field is frozen. -/
  | froze {violations : List FrozenField} {record : Record} {session : Session World} :
      (∀ event ∈ session.journal, event.IsLook) → before.Retains record →
      Proceeds before ⟨.ended (.frozen violations), record, session⟩
  | committed {stage : Stage} {record : Record} {session : Session World} :
      stage.Commits record → Proceeds before ⟨stage, record, session⟩

namespace Reconciler

variable {World : Type} {reconciler : Reconciler World} {adapter : Adapter}
variable {session final : Session World} {before record begun : Record} {stage : Stage}

theorem not_refuses_of_failing (session : Session World) (record : Record) (phase : Phase)
    (error : PassError) :
    ¬(reconciler.failing session record phase error).2.Refuses := by
  rcases reconciler.outcome_of_failing session record phase error with
    outcome | outcome | outcome <;> rw [outcome] <;> exact id

/-! ## Where a pass no longer refuses -/

theorem canEnter_of_commits {state : RecordState} (commits : stage.Commits record)
    (entry : stage.entry? = some state) : record.state.canMoveTo state = true := by
  cases stage with
  | create desired =>
      cases entry
      exact commits
  | sendUpdates desired id updates =>
      cases entry
      exact commits
  | finish id phase =>
      cases entry
      exact commits.2
  | observe id phase =>
      cases entry
      exact commits.2
  | finishDelete id =>
      cases entry
      exact commits
  | update _ _ _ => exact absurd commits id
  | compareAndSend _ _ _ => exact absurd commits id
  | _ => cases entry

theorem not_declines_of_commits (commits : stage.Commits record) {outcome : Outcome}
    {left : Record} :
    ¬reconciler.Declines adapter session record stage outcome left := by
  intro declines
  cases declines with
  | refused entry refused =>
      exact moved_ne_error (canEnter_of_commits commits entry) refused
  | unreadableId start _ => cases stage <;> first | exact commits | cases start
  | undeclared compares _ _ => cases stage <;> first | exact commits | cases compares
  | frozen compares _ _ _ => cases stage <;> first | exact commits | cases compares
  | _ => exact commits

/-- Once a pass cannot refuse any more, no step makes it able to. -/
theorem commits_of_step {standing next : Standing World}
    (commits : standing.stage.Commits standing.record)
    (step : reconciler.Step adapter standing next) : next.stage.Commits next.record := by
  cases step with
  | declined declines => exact absurd declines (not_declines_of_commits commits)
  | failed _ => exact not_refuses_of_failing _ _ _ _
  | created entered _ _ =>
      have allowed := canMoveTo_of_moved entered (.polling .create) rfl
      exact ⟨nofun, allowed⟩
  | reached entered _ =>
      have allowed := RecordState.polling_canMoveTo_observing commits.1
      exact ⟨commits.1, canMoveTo_of_moved entered .observing allowed⟩
  | tagged _ => exact commits
  | observed _ _ _ => exact id
  | sentNone entered _ =>
      have allowed := canMoveTo_of_moved entered .observing rfl
      exact ⟨nofun, allowed⟩
  | sent _ entered _ =>
      have allowed := canMoveTo_of_moved entered (.polling .update) rfl
      exact ⟨nofun, allowed⟩
  | deleted _ _ _ => exact id
  | _ => exact absurd commits id

/-! ## Until a pass refuses -/

/-- A pass that has done nothing yet refuses without doing anything, looks at the
resource, or can no longer refuse. -/
theorem proceeds_of_quiet_step {next : Standing World}
    (opens : stage.Opens) (silent : session.journal = [])
    (untouched : before.Untouched record)
    (step : reconciler.Step adapter ⟨stage, record, session⟩ next) :
    next.Proceeds before := by
  cases step with
  | declined declines =>
      refine .quiet trivial silent (untouched.trans declines.untouched) fun unusable => ?_
      cases unusable
      cases declines with
      | tainted tainted => rw [← untouched.tainted, tainted]
  | failed _ => exact .committed (not_refuses_of_failing _ _ _ _)
  | begins _ _ => exact .quiet trivial silent untouched nofun
  | resumes _ resumption =>
      exact .committed (RecordState.canMoveTo_of_resumes? resumption)
  | updates _ _ => exact .quiet trivial silent untouched nofun
  | created entered _ _ =>
      have allowed := canMoveTo_of_moved entered (.polling .create) rfl
      exact .committed ⟨nofun, allowed⟩
  | refreshed compares differs _ entered read =>
      have looks : Session.Adds Event.IsLook session _ :=
        reconciler.read_notes adapter _ _ _ _ _ read
      have retained := untouched.toRetains.trans
        ((untouched_of_moved compares).trans (untouched_of_moved entered)).toRetains
      have isObserving := state_of_moved entered
      -- the next comparison has another baseline, but finds the same fields declared
      rcases diffAgainst_eq_ok _ differs with ⟨others, again⟩
      refine .looked (looks.forall_mem (by simp [silent]) fun _ => id) ?_ isObserving again
      exact ⟨retained.localId, retained.desired, retained.tainted⟩
  | gone _ _ _ _ _ loses =>
      have allowed := canMoveTo_of_moved loses .creating rfl
      exact .committed allowed
  | unknown _ => exact .committed id
  | resumesDelete _ isPolling =>
      apply Standing.Proceeds.committed
      rw [Stage.Commits, isPolling]
      decide
  | deleting _ _ entered _ _ =>
      have allowed := canMoveTo_of_moved entered (.polling .delete) rfl
      exact .committed allowed
  | _ => exact absurd opens id

/-- A pass that has looked at the resource refuses only because a field is frozen. -/
theorem proceeds_of_looked_step {schema : ResourceSchema} {desired : DesiredState}
    {id : Identifier} {diff : FieldDiff} {next : Standing World}
    (looks : ∀ event ∈ session.journal, event.IsLook) (retained : before.Retains record)
    (isObserving : record.state = .observing)
    (compared : fieldDiff record desired schema = .ok diff)
    (step : reconciler.Step adapter ⟨.compareAndSend schema desired id, record, session⟩
      next) :
    next.Proceeds before := by
  cases step with
  | declined declines =>
      cases declines with
      | refused entry refused =>
          cases entry
          exact absurd refused (moved_ne_error (by rw [isObserving]; rfl))
      | unreadableId start _ => cases start
      | undeclared compares entered undeclared =>
          cases compares
          rcases moved_unchanged entered with ⟨-, sameDesired, sameObserved, -⟩
          rw [fieldDiff, sameDesired, sameObserved] at undeclared
          cases compared.symm.trans undeclared
      | frozen _ entered _ _ =>
          exact .froze looks (retained.trans (untouched_of_moved entered).toRetains)
  | failed _ => exact .committed (not_refuses_of_failing _ _ _ _)
  | unchanged _ _ _ _ _ => exact .committed fun refuses => refuses
  | differs entered _ _ _ =>
      have allowed := canMoveTo_of_moved entered .updating rfl
      exact .committed allowed

theorem proceeds_of_step {standing next : Standing World}
    (proceeds : standing.Proceeds before) (step : reconciler.Step adapter standing next) :
    next.Proceeds before := by
  cases proceeds with
  | quiet opens silent untouched _ =>
      exact proceeds_of_quiet_step opens silent untouched step
  | looked looks retained isObserving compared =>
      exact proceeds_of_looked_step looks retained isObserving compared step
  | froze _ _ => exact absurd step.rank_lt (Nat.not_lt_zero _)
  | committed commits => exact .committed (commits_of_step commits step)

end Reconciler

namespace Pass

variable {World : Type} {adapter : Adapter} (pass : Pass World adapter)

theorem proceeds_ending : pass.ending.Proceeds pass.before := by
  have begins : pass.opening.Proceeds pass.before := by
    rw [opening]
    cases pass.goal with
    | reconcile desired => exact .quiet trivial rfl (.refl _) fun ended => by cases ended
    | delete => exact .quiet trivial rfl (.refl _) fun ended => by cases ended
  exact Reconciler.invariant_of_steps (fun _ _ => Reconciler.proceeds_of_step) pass.steps
    begins

variable {pass} in
/-- A record is unusable exactly because it is tainted. -/
theorem unusable_iff {desired : DesiredState} (goal : pass.goal = .reconcile desired) :
    pass.outcome = .unusable ↔ pass.before.tainted = true := by
  constructor
  · intro unusable
    have proceeds := pass.proceeds_ending
    rw [ending, unusable] at proceeds
    cases proceeds with
    | quiet _ _ _ tainted => exact tainted rfl
    | committed commits => exact absurd trivial commits
  · exact fun tainted => (ended_of_tainted goal tainted).1

/-- A pass that refuses what it is asked has sent nothing and changed nothing of the record
but its state and its date.  Where it refuses because a field is frozen, it may have
refreshed the resource before. -/
theorem refuses_quietly :
    ((∃ error, pass.outcome = .invalid error) ∨ pass.outcome = .unusable →
      pass.journal = [] ∧ pass.after.localId = pass.before.localId ∧
        pass.after.desired = pass.before.desired ∧
        pass.after.lastObserved = pass.before.lastObserved ∧
        pass.after.tags = pass.before.tags ∧
        pass.after.tainted = pass.before.tainted) ∧
    (∀ violations, pass.outcome = .frozen violations →
      (∀ event ∈ pass.journal, event.IsCall .refresh ∨ event.IsTagRead) ∧
        pass.after.localId = pass.before.localId ∧
        pass.after.desired = pass.before.desired ∧
        pass.after.tainted = pass.before.tainted) := by
  have proceeds := pass.proceeds_ending
  rw [ending] at proceeds
  constructor
  · intro refused
    have refuses : pass.outcome.Refuses := by
      rcases refused with ⟨error, outcome⟩ | outcome <;> rw [outcome] <;> trivial
    generalize pass.outcome = outcome at refused refuses proceeds
    cases proceeds with
    | quiet _ silent untouched _ =>
        exact ⟨silent, untouched.localId, untouched.desired, untouched.lastObserved,
          untouched.tags, untouched.tainted⟩
    | froze _ _ => rcases refused with ⟨error, outcome⟩ | outcome <;> cases outcome
    | committed commits => exact absurd refuses commits
  · intro violations frozen
    rw [frozen] at proceeds
    cases proceeds with
    | quiet _ silent untouched _ =>
        rw [journal, silent]
        exact ⟨by simp, untouched.localId, untouched.desired, untouched.tainted⟩
    | froze looks retained =>
        exact ⟨looks, retained.localId, retained.desired, retained.tainted⟩
    | committed commits => exact absurd trivial commits

end Pass

namespace Simulation.Server

/-- The server is to be painted, but servers have no colour. -/
def paints : Pass World adapter :=
  .ofEnded reconciler adapter known
    (.reconcile { attributes := .ofList [("colour", .string "green")] }) (world [])
    (by decide +kernel)

/-- The server is to change its zone.  Which zone it is in is known only after a
refresh. -/
def relocates : Pass World adapter :=
  .ofEnded reconciler adapter known
    (.reconcile { attributes := .ofList [("zone", .string "z2")] })
    (world [("Describe", [busy, found 2 "ready"]),
      ("DescribeResourceTags", [tagged "owner" "red"])])
    (by decide +kernel)

theorem refused_server_refuses_quietly :
    [paints, retagsAgain, relocates].map (fun pass => pass.outcome.name) =
      ["invalid", "unusable", "frozen_field_violation"] ∧
    paints.journal = [] ∧ retagsAgain.journal = [] ∧ relocates.journal ≠ [] ∧
    (∀ event ∈ relocates.journal, event.IsCall .refresh ∨ event.IsTagRead) ∧
    (paints.after.localId = paints.before.localId ∧
      retagsAgain.after.tainted = retagsAgain.before.tainted ∧
      relocates.after.desired = relocates.before.desired) := by
  have painted := (Pass.refuses_quietly paints).1
    (.inl ⟨.undeclared ⟨"server", "colour"⟩, by decide +kernel⟩)
  have retagged := (Pass.refuses_quietly retagsAgain).1 (.inr (by decide +kernel))
  have relocated := (Pass.refuses_quietly relocates).2
    [⟨"zone", .string "z1", .string "z2"⟩] (by decide +kernel)
  exact ⟨by decide +kernel, painted.1, retagged.1, by decide +kernel, relocated.1,
    painted.2.1, retagged.2.2.2.2.2, relocated.2.2.1⟩

end Simulation.Server

end ControlLoop
