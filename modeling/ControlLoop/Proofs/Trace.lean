import ControlLoop.Proofs.Footprint
import ControlLoop.Proofs.History
import ControlLoop.Proofs.Identifier

/-!
# Traces of passes

Each stage of a pass notes events of its own kinds only: creates come from the
`create` stage, updates from the `sendUpdates` stage, marks of reached targets from
the stages that wait, and read-backs from the `observe` stage.  So what a pass has
noted so far says at which stages it has been.

Once nothing but a wait is left of a pass (`Stage.Rests`), it only reads.
-/

namespace ControlLoop

namespace Event

/-- An attempt to create, update or delete the resource. -/
def IsWrite : Event → Prop
  | .called purpose _ _ => purpose.kind = .write
  | _ => False

/-- Anything but an attempt to change the resource or to refresh it. -/
def IsFollowUp : Event → Prop
  | .called purpose _ _ => purpose.kind = .read
  | _ => True

theorem IsFollowUp.not_isWrite {event : Event} (followsUp : event.IsFollowUp) :
    ¬event.IsWrite := by
  cases event with
  | called purpose request answer =>
      intro writes
      cases (followsUp.symm.trans writes)
  | _ => exact id

end Event

/-- The events that a stage may note. -/
def Stage.MayNote : Stage → Event → Prop
  | .create _, event => event.IsCall .create
  | .update _ _ _, event => event.IsCall .refresh ∨ event.IsTagRead
  | .sendUpdates _ _ _, event => event.IsCall .update
  | .finish _ phase, event => event.IsCall (.poll phase) ∨ event = .settled phase
  | .tagAndObserve _ _, event => event.IsTagChange
  | .observe _ _, event => event.IsCall .readBack ∨ event.IsTagRead
  | .delete, event => event.IsCall .delete
  | .finishDelete _, event => event.IsCall (.poll .delete) ∨ event = .settled .delete
  | _, _ => False

/-- What a stage makes its calls for, if it makes any. -/
def Stage.purpose? : Stage → Option Purpose
  | .create _ => some .create
  | .update _ _ _ => some .refresh
  | .sendUpdates _ _ _ => some .update
  | .finish _ phase => some (.poll phase)
  | .observe _ _ => some .readBack
  | .delete => some .delete
  | .finishDelete _ => some (.poll .delete)
  | _ => none

/-- Every stage makes calls for its own purpose only. -/
theorem Stage.purpose?_of_mayNote {stage : Stage} {purpose : Purpose} {request : Request}
    {answer : Except RemoteError Json}
    (may : stage.MayNote (.called purpose request answer)) :
    stage.purpose? = some purpose := by
  cases stage <;>
    simp [MayNote, Event.IsCall, Event.IsTagRead, Event.IsTagChange] at may <;>
    rw [may, purpose?]

/-- The stages from which a pass only reads: a wait is all that is left of it. -/
def Stage.Rests (record : Record) : Stage → Prop
  | .reconcile _ => record.localId ≠ none ∧ record.state.resumes? ≠ none
  | .delete => record.state = .polling .delete
  | .finish _ _ => True
  | .tagAndObserve _ _ => True
  | .observe _ _ => True
  | .finishDelete _ => True
  | .ended _ => True
  | _ => False

theorem Stage.isFollowUp_of_mayNote {stage : Stage} {record : Record} {event : Event}
    (rests : stage.Rests record) (notDelete : stage ≠ .delete)
    (may : stage.MayNote event) : event.IsFollowUp := by
  cases event with
  | called purpose request answer =>
      have made := purpose?_of_mayNote may
      cases stage with
      | delete => exact absurd rfl notDelete
      | create _ => exact absurd rests id
      | sendUpdates _ _ _ => exact absurd rests id
      | update _ _ _ => exact absurd rests id
      | _ => cases made <;> rfl
  | _ => trivial

namespace Reconciler

variable {World : Type} {reconciler : Reconciler World} {adapter : Adapter}
variable {session final : Session World} {record begun : Record}

theorem adds_of_await {id : Identifier} {phase : Phase} {answer : Except PassError Unit}
    (ran : reconciler.await adapter id phase session = some (answer, final)) :
    Session.Adds (fun event => event.IsCall (.poll phase) ∨ event = .settled phase) session
      final := by
  rcases reconciler.journal_of_await adapter id ran with ⟨reads, areReads, journal⟩
  refine ⟨_, journal, fun event member => ?_⟩
  rcases List.mem_append.1 member with settled | read
  · split at settled
    · exact .inr (List.mem_singleton.1 settled)
    · cases settled
  · exact .inl (areReads event read)

theorem adds_of_awaited {stage : Stage} {id : Identifier} {phase : Phase}
    {answer : Except PassError Unit} (waits : stage.awaited? = some (id, phase))
    (ran : reconciler.await adapter id phase session = some (answer, final)) :
    Session.Adds stage.MayNote session final := by
  cases stage with
  | finish waited awaited =>
      cases waits
      exact adds_of_await ran
  | finishDelete waited =>
      cases waits
      exact adds_of_await ran
  | _ => cases waits

theorem Fails.adds {stage : Stage} {phase : Phase} {error : PassError}
    (fails : reconciler.Fails adapter session record stage phase error begun final) :
    Session.Adds stage.MayNote session final := by
  cases fails with
  | create _ called => exact reconciler.call_notes _ _ _ _ _ called
  | createAnswer _ called _ => exact reconciler.call_notes _ _ _ _ _ called
  | await waits _ awaited => exact adds_of_awaited waits awaited
  | applyTags applied => exact reconciler.applyTags_notes adapter _ _ _ _ _ applied
  | readBack _ read => exact reconciler.read_notes adapter _ _ _ _ _ read
  | vanished _ read => exact reconciler.read_notes adapter _ _ _ _ _ read
  | refresh _ _ _ _ read => exact reconciler.read_notes adapter _ _ _ _ _ read
  | send _ sent => exact reconciler.callAll_notes _ _ _ _ _ sent
  | delete _ _ _ called _ => exact reconciler.call_notes _ _ _ _ _ called

/-- A step adds only events that its stage may note. -/
theorem Step.adds {standing next : Standing World}
    (step : reconciler.Step adapter standing next) :
    Session.Adds standing.stage.MayNote standing.session next.session := by
  cases step with
  | declined _ => exact .refl _
  | failed fails => exact fails.adds
  | begins _ _ => exact .refl _
  | resumes _ _ => exact .refl _
  | updates _ _ => exact .refl _
  | created _ called _ => exact reconciler.call_notes _ _ _ _ _ called
  | reached _ awaited => exact adds_of_await awaited
  | tagged applied => exact reconciler.applyTags_notes adapter _ _ _ _ _ applied
  | observed _ read _ => exact reconciler.read_notes adapter _ _ _ _ _ read
  | refreshed _ _ _ _ read => exact reconciler.read_notes adapter _ _ _ _ _ read
  | gone _ _ _ _ read _ => exact reconciler.read_notes adapter _ _ _ _ _ read
  | unchanged _ _ _ _ _ => exact .refl _
  | differs _ _ _ _ => exact .refl _
  | sentNone _ sent => exact reconciler.callAll_notes _ _ _ _ _ sent
  | sent _ _ sent => exact reconciler.callAll_notes _ _ _ _ _ sent
  | unknown _ => exact .refl _
  | resumesDelete _ _ => exact .refl _
  | deleting _ _ _ called _ => exact reconciler.call_notes _ _ _ _ _ called
  | deleted _ awaited _ => exact adds_of_await awaited

/-- What has been noted stays noted. -/
theorem Step.mem_journal {standing next : Standing World} {event : Event}
    (step : reconciler.Step adapter standing next)
    (member : event ∈ standing.session.journal) : event ∈ next.session.journal := by
  rcases step.adds with ⟨events, grown, -⟩
  rw [grown]
  exact List.mem_append_right events member

theorem mem_journal_of_runFrom {stage : Stage} {after : Record} {outcome : Outcome}
    {event : Event}
    (ran : reconciler.runFrom adapter record stage session =
      some ((after, outcome), final))
    (member : event ∈ session.journal) : event ∈ final.journal := by
  have kept (standing next : Standing World) (member : event ∈ standing.session.journal)
      (step : reconciler.Step adapter standing next) : event ∈ next.session.journal :=
    step.mem_journal member
  exact invariant_of_runFrom kept ran member

/-- From a stage at which a pass rests, every step only reads. -/
theorem rests_of_step {standing next : Standing World}
    (rests : standing.stage.Rests standing.record ∧
      ∀ event ∈ standing.session.journal, event.IsFollowUp)
    (step : reconciler.Step adapter standing next) :
    next.stage.Rests next.record ∧ ∀ event ∈ next.session.journal, event.IsFollowUp := by
  rcases rests with ⟨rests, followUps⟩
  have quietly (notDelete : standing.stage ≠ .delete) :
      ∀ event ∈ next.session.journal, event.IsFollowUp :=
    step.adds.forall_mem followUps fun _ => Stage.isFollowUp_of_mayNote rests notDelete
  cases step with
  | declined _ => exact ⟨trivial, followUps⟩
  | failed fails =>
      refine ⟨trivial, quietly ?_⟩
      rintro rfl
      cases fails with
      | await waits _ _ => cases waits
      | delete _ notPolling _ _ _ => exact notPolling rests
  | begins accepts _ => exact absurd (checkedId_eq_ok_none_iff.1 accepts.readable) rests.1
  | updates _ resumption => exact absurd resumption rests.2
  | resumes _ _ => exact ⟨trivial, followUps⟩
  | unknown _ => exact ⟨trivial, followUps⟩
  | resumesDelete _ _ => exact ⟨trivial, followUps⟩
  | deleting _ notPolling _ _ _ => exact absurd rests notPolling
  | reached _ _ => exact ⟨trivial, quietly nofun⟩
  | tagged _ => exact ⟨trivial, quietly nofun⟩
  | observed _ _ _ => exact ⟨trivial, quietly nofun⟩
  | deleted _ _ _ => exact ⟨trivial, quietly nofun⟩
  | _ => exact absurd rests id

end Reconciler

/-- A pass that begins where it rests only reads. -/
theorem Pass.isFollowUp_of_rests {World : Type} {adapter : Adapter}
    (pass : Pass World adapter) (rests : pass.goal.stage.Rests pass.before) :
    ∀ event ∈ pass.journal, event.IsFollowUp :=
  (Reconciler.invariant_of_runFrom (fun _ _ => Reconciler.rests_of_step) pass.ranFrom
    ⟨rests, nofun⟩).2

end ControlLoop
