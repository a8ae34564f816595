import ControlLoop.Proofs.History
import ControlLoop.Proofs.Identifier
import ControlLoop.Proofs.Trace
import ControlLoop.Simulation.Disk

/-!
# Confirmed changes

A change is confirmed when a wait reaches its target after it.  Creates are always
confirmed before a pass converges: until then the state of the record makes every
pass resume the wait.  Updates are not: a record whose update failed, timed out or
was cancelled is compared again, and if the comparison finds nothing to change, the
pass converges without a wait.

Main statement: `History.confirmed_iff`, which says when all changes of a history
whose latest pass converged are confirmed.
-/

namespace ControlLoop

namespace Event

/-- The phase of the change that an event asks for. -/
def change? : Event → Option Phase
  | .called .create _ _ => some .create
  | .called .update _ _ => some .update
  | _ => none

/-- Whether an event is a wait that reached its target. -/
def isSettled : Event → Bool
  | .settled _ => true
  | _ => false

/-- Whether an event neither asks for a change nor confirms one. -/
def isQuiet (event : Event) : Bool :=
  !event.isSettled && event.change?.isNone

theorem isQuiet_iff {event : Event} :
    event.isQuiet = true ↔ event.isSettled = false ∧ event.change? = none := by
  simp [isQuiet]

end Event

/-- Every change in a journal, latest event first, is followed by a wait that reached
its target. -/
def Confirmed (journal : List Event) : Prop :=
  ∀ later change earlier, journal = later ++ change :: earlier →
    change.change? ≠ none → ∃ event ∈ later, event.isSettled = true

/-- A wait in a journal has reached its target. -/
def Settled (journal : List Event) : Prop :=
  ∃ event ∈ journal, event.isSettled = true

/-- The phase of the last change in a journal, latest event first, if no wait has
reached its target since. -/
def unconfirmed : List Event → Option Phase
  | [] => none
  | event :: earlier =>
      if event.isSettled then none else event.change?.or (unconfirmed earlier)

/-! ## Journals -/

section

variable {event : Event} {journal newer older : List Event}

theorem confirmed_cons_of_isQuiet (quiet : event.isQuiet = true) :
    Confirmed (event :: journal) ↔ Confirmed journal := by
  rcases Event.isQuiet_iff.1 quiet with ⟨unsettled, unchanging⟩
  constructor
  · intro confirmed later change earlier split isChange
    obtain ⟨settled, member, settles⟩ :=
      confirmed (event :: later) change earlier (congrArg (event :: ·) split) isChange
    rcases List.mem_cons.1 member with rfl | member
    · rw [unsettled] at settles
      cases settles
    · exact ⟨settled, member, settles⟩
  · intro confirmed later change earlier split isChange
    cases later with
    | nil =>
        cases split
        exact absurd unchanging isChange
    | cons first later =>
        rcases List.cons.inj split with ⟨rfl, split'⟩
        rcases confirmed later change earlier split' isChange with
          ⟨settled, member, settles⟩
        exact ⟨settled, List.mem_cons_of_mem _ member, settles⟩

/-- All changes are confirmed exactly when the last one is. -/
theorem confirmed_iff_unconfirmed : Confirmed journal ↔ unconfirmed journal = none := by
  induction journal with
  | nil =>
      constructor
      · intro _
        exact rfl
      · intro _ later change earlier split
        simp at split
  | cons event journal ih =>
      cases settles : event.isSettled with
      | true =>
          simp only [unconfirmed, settles, if_true, iff_true]
          intro later change earlier split isChange
          cases later with
          | nil =>
              cases split
              cases event <;> simp_all [Event.isSettled, Event.change?]
          | cons first later =>
              rcases List.cons.inj split with ⟨rfl, -⟩
              exact ⟨event, List.mem_cons_self, settles⟩
      | false =>
          cases changes : event.change? with
          | none =>
              have quiet := Event.isQuiet_iff.2 ⟨settles, changes⟩
              rw [confirmed_cons_of_isQuiet quiet, ih]
              simp [unconfirmed, settles, changes]
          | some phase =>
              simp only [unconfirmed, settles, changes, Option.some_or, Bool.false_eq_true,
                if_false, reduceCtorEq, iff_false]
              intro confirmed
              obtain ⟨settled, member, -⟩ :=
                confirmed [] event journal rfl (by simp [changes])
              cases member

theorem unconfirmed_append :
    unconfirmed (newer ++ older) =
      if newer.all Event.isQuiet then unconfirmed older else unconfirmed newer := by
  induction newer with
  | nil => rfl
  | cons event newer ih =>
      rw [List.cons_append, unconfirmed, unconfirmed, ih, List.all_cons, Event.isQuiet]
      cases event.isSettled <;> cases event.change? <;> simp

theorem not_settled_of_all_isQuiet (quiet : journal.all Event.isQuiet = true) :
    ¬Settled journal := by
  rintro ⟨event, member, settles⟩
  have isQuiet := List.all_eq_true.1 quiet event member
  rw [(Event.isQuiet_iff.1 isQuiet).1] at settles
  cases settles

theorem settled_append : Settled (newer ++ older) ↔ Settled newer ∨ Settled older := by
  simp [Settled, or_and_right, exists_or]

theorem unconfirmed_of_all_isQuiet (quiet : journal.all Event.isQuiet = true) :
    unconfirmed journal = none := by
  rw [← List.append_nil journal, unconfirmed_append, if_pos quiet]
  rfl

/-- A journal without a reached target is quiet exactly when it asks for no change. -/
theorem all_isQuiet_iff (unsettled : ¬Settled journal) :
    journal.all Event.isQuiet = true ↔ ∀ event ∈ journal, event.change? = none := by
  rw [List.all_eq_true]
  constructor
  · intro quiet event member
    exact (Event.isQuiet_iff.1 (quiet event member)).2
  · intro unchanging event member
    refine Event.isQuiet_iff.2 ⟨?_, unchanging event member⟩
    cases settles : event.isSettled with
    | false => rfl
    | true => exact absurd ⟨event, member, settles⟩ unsettled

/-- A journal without a reached target leaves nothing unconfirmed only if it is quiet. -/
theorem all_isQuiet_of_unconfirmed (unsettled : ¬Settled journal)
    (confirmed : unconfirmed journal = none) : journal.all Event.isQuiet = true := by
  rw [all_isQuiet_iff unsettled]
  intro event member
  obtain ⟨later, earlier, split⟩ := List.append_of_mem member
  cases changes : event.change? with
  | none => rfl
  | some phase =>
      have isChange : event.change? ≠ none := by simp [changes]
      rcases confirmed_iff_unconfirmed.2 confirmed later event earlier split isChange with
        ⟨settled, inLater, settles⟩
      have inJournal : settled ∈ journal := split ▸ List.mem_append_left _ inLater
      exact absurd ⟨settled, inJournal, settles⟩ unsettled

theorem unconfirmed_append_of_ne (leaves : unconfirmed newer ≠ none) :
    unconfirmed (newer ++ older) = unconfirmed newer := by
  rw [unconfirmed_append, if_neg]
  intro quiet
  exact leaves (unconfirmed_of_all_isQuiet quiet)

/-- Nothing is unconfirmed exactly when nothing is left by the newer events and, unless
they reached a target, nothing was left by the older ones. -/
theorem unconfirmed_append_eq_none_iff :
    unconfirmed (newer ++ older) = none ↔
      unconfirmed newer = none ∧ (Settled newer ∨ unconfirmed older = none) := by
  rw [unconfirmed_append]
  split
  next quiet =>
    simp [unconfirmed_of_all_isQuiet quiet, not_settled_of_all_isQuiet quiet]
  next loud =>
    constructor
    · intro confirmed
      refine ⟨confirmed, .inl (Classical.byContradiction fun unsettled => ?_)⟩
      exact loud (all_isQuiet_of_unconfirmed unsettled confirmed)
    · intro both
      exact both.1

/-- Events that do not ask for changes of a phase leave none of them unconfirmed. -/
theorem unconfirmed_append_ne {phase : Phase}
    (others : ∀ event ∈ newer, event.change? ≠ some phase)
    (before : unconfirmed older ≠ some phase) :
    unconfirmed (newer ++ older) ≠ some phase := by
  induction newer with
  | nil => exact before
  | cons event newer ih =>
      rcases List.forall_mem_cons.1 others with ⟨other, others⟩
      rw [List.cons_append, unconfirmed]
      split
      · exact nofun
      · cases change : event.change? with
        | none =>
            rw [Option.none_or]
            exact ih others
        | some changed =>
            rw [Option.some_or, ← change]
            exact other

/-- No delete is a change of the resource. -/
theorem unconfirmed_ne_delete : unconfirmed journal ≠ some .delete := by
  rw [← List.append_nil journal]
  refine unconfirmed_append_ne (fun event _ => ?_) nofun
  cases event with
  | called purpose request answer => cases purpose <;> exact nofun
  | _ => exact nofun

end

namespace Session

variable {World : Type} {session final : Session World}

/-- Nothing is changed any more once a wait has reached its target. -/
def Closes (session : Session World) : Prop :=
  Settled session.journal → unconfirmed session.journal = none

theorem Closes.of_not_settled (unsettled : ¬Settled session.journal) : session.Closes := by
  intro settled
  exact absurd settled unsettled

theorem not_settled_of_adds {kind : Event → Prop} (adds : Adds kind session final)
    (others : ∀ event, kind event → event.isSettled = false)
    (unsettled : ¬Settled session.journal) : ¬Settled final.journal := by
  rcases adds with ⟨events, grown, areKind⟩
  rw [grown, settled_append, not_or]
  refine ⟨?_, unsettled⟩
  rintro ⟨event, member, settles⟩
  rw [others event (areKind event member)] at settles
  cases settles

/-- Quiet events keep a session closed. -/
theorem Closes.of_adds {kind : Event → Prop} (closes : session.Closes)
    (adds : Adds kind session final) (quiet : ∀ event, kind event → event.isQuiet = true) :
    final.Closes := by
  rcases adds with ⟨events, grown, areKind⟩
  have allQuiet : events.all Event.isQuiet = true :=
    List.all_eq_true.2 fun event member => quiet event (areKind event member)
  intro settled
  rw [grown, settled_append] at settled
  rw [grown, unconfirmed_append, if_pos allQuiet]
  exact closes (settled.resolve_left (not_settled_of_all_isQuiet allQuiet))

theorem unconfirmed_ne_of_adds {kind : Event → Prop} {phase : Phase}
    {earlier : List Event} (adds : Adds kind session final)
    (others : ∀ event, kind event → event.change? ≠ some phase)
    (before : unconfirmed (session.journal ++ earlier) ≠ some phase) :
    unconfirmed (final.journal ++ earlier) ≠ some phase := by
  rcases adds with ⟨events, grown, areKind⟩
  rw [grown, List.append_assoc]
  exact unconfirmed_append_ne (fun event member => others event (areKind event member))
    before

end Session

namespace Stage

variable {stage : Stage} {event : Event}

/-- Only the `create` stage creates. -/
theorem change?_of_mayNote (elsewhere : ∀ desired, stage ≠ .create desired)
    (may : stage.MayNote event) : event.change? ≠ some .create := by
  intro creates
  cases event with
  | called purpose request answer =>
      cases purpose with
      | create =>
          have made := purpose?_of_mayNote may
          cases stage with
          | create desired => exact elsewhere desired rfl
          | _ => cases made
      | _ => cases creates
  | _ => cases creates

/-- Only the stages that wait settle. -/
theorem isSettled_of_mayNote (elsewhere : stage.awaited? = none)
    (may : stage.MayNote event) : event.isSettled = false := by
  cases event with
  | settled phase =>
      cases stage with
      | finish id awaited => cases elsewhere
      | finishDelete id => cases elsewhere
      | _ => simp [MayNote, Event.IsCall, Event.IsTagRead, Event.IsTagChange] at may
  | _ => rfl

/-- The stages after a wait neither change nor settle. -/
theorem isQuiet_of_mayNote {id : Identifier} {phase : Phase}
    (ending : stage = .tagAndObserve id phase ∨ stage = .observe id phase)
    (may : stage.MayNote event) : event.isQuiet = true := by
  refine Event.isQuiet_iff.2 ⟨isSettled_of_mayNote ?_ may, ?_⟩
  · rcases ending with rfl | rfl <;> rfl
  · cases event with
    | called purpose request answer =>
        rcases ending with rfl | rfl <;>
          simp [MayNote, Event.IsCall, Event.IsTagRead, Event.IsTagChange] at may
        rw [may]
        rfl
    | _ => rfl

end Stage

/-! ## What is owed at each stage -/

/-- A create that a journal leaves unconfirmed is not forgotten: the next pass creates
again or resumes the wait. -/
def Record.Remembers (record : Record) (journal : List Event) : Prop :=
  unconfirmed journal = some .create →
    record.localId = none ∨ record.state.resumes? = some .create

theorem Record.remembers_of_ne {record : Record} {journal : List Event}
    (confirmed : unconfirmed journal ≠ some .create) : record.Remembers journal :=
  fun unconfirmed => absurd unconfirmed confirmed

/-- What holds at every stage of a pass after passes with an `earlier` journal: the
changes that are unconfirmed, and whether the pass has reached a target. -/
def Stage.Owes {World : Type} (earlier : List Event) (session : Session World)
    (record : Record) : Stage → Prop
  | .reconcile _ => record.Remembers (session.journal ++ earlier) ∧ ¬Settled session.journal
  | .create _ => record.localId = none ∧ ¬Settled session.journal
  | .update _ _ _ =>
      unconfirmed (session.journal ++ earlier) ≠ some .create ∧ ¬Settled session.journal
  | .compareAndSend _ _ _ =>
      unconfirmed (session.journal ++ earlier) ≠ some .create ∧ ¬Settled session.journal
  | .sendUpdates _ _ _ =>
      unconfirmed (session.journal ++ earlier) ≠ some .create ∧ ¬Settled session.journal
  | .finish _ phase =>
      (unconfirmed (session.journal ++ earlier) = some .create →
        phase = .create ∧ record.state.resumes? = some .create) ∧ ¬Settled session.journal
  | .tagAndObserve _ _ =>
      unconfirmed (session.journal ++ earlier) ≠ some .create ∧ session.Closes
  | .observe _ _ =>
      unconfirmed (session.journal ++ earlier) ≠ some .create ∧ session.Closes
  | .delete => False
  | .finishDelete _ => False
  | .ended outcome => record.Remembers (session.journal ++ earlier) ∧
      (outcome = .converged →
        unconfirmed (session.journal ++ earlier) ≠ some .create ∧ session.Closes)

namespace Reconciler

variable {World : Type} {reconciler : Reconciler World} {adapter : Adapter}
variable {session final : Session World} {record begun left : Record}
variable {earlier : List Event} {stage : Stage}

theorem remembers_of_declines {outcome : Outcome}
    (owes : stage.Owes earlier session record)
    (declines : reconciler.Declines adapter session record stage outcome left) :
    left.Remembers (session.journal ++ earlier) := by
  cases declines with
  | refused entry _ =>
      cases stage with
      | create desired =>
          intro _
          exact .inl owes.1
      | update schema desired id => exact Record.remembers_of_ne owes.1
      | compareAndSend schema desired id => exact Record.remembers_of_ne owes.1
      | sendUpdates desired id updates => exact Record.remembers_of_ne owes.1
      | finish id phase =>
          intro unconfirmed
          exact .inr (owes.1 unconfirmed).2
      | observe id phase => exact Record.remembers_of_ne owes.1
      | finishDelete id => exact owes.elim
      | _ => cases entry
  | refusedDelete _ _ _ => exact owes.elim
  | tainted _ => exact owes.1
  | unknownType _ => exact owes.1
  | unreadableId start _ =>
      cases stage with
      | reconcile desired => exact owes.1
      | delete => exact owes.elim
      | _ => cases start
  | deletePending _ => exact owes.1
  | undeclaredAtCreate _ _ => exact owes.1
  | undeclared compares _ _ =>
      cases stage with
      | update schema desired id => exact Record.remembers_of_ne owes.1
      | compareAndSend schema desired id => exact Record.remembers_of_ne owes.1
      | _ => cases compares
  | frozen compares _ _ _ =>
      cases stage with
      | update schema desired id => exact Record.remembers_of_ne owes.1
      | compareAndSend schema desired id => exact Record.remembers_of_ne owes.1
      | _ => cases compares

/-- A wait for a create that fails leaves a record that resumes it. -/
theorem resumes_of_failing {error : PassError}
    (entered : reconciler.moved session record (.polling .create) = .ok begun) :
    (reconciler.failing final begun .create error).1.state.resumes? = some .create := by
  have isPolling := state_of_moved entered
  rcases reconciler.state_of_failing final begun .create error with state | state
  · rw [state, isPolling]
    rfl
  · rw [state]
    rfl

/-- A failed step forgets nothing: what is unconfirmed after it can be resumed. -/
theorem remembers_of_fails {phase : Phase} {error : PassError}
    (owes : stage.Owes earlier session record)
    (fails : reconciler.Fails adapter session record stage phase error begun final) :
    (reconciler.failing final begun phase error).1.Remembers
      (final.journal ++ earlier) := by
  have kept (elsewhere : ∀ desired, stage ≠ .create desired) :
      unconfirmed (session.journal ++ earlier) ≠ some .create →
        unconfirmed (final.journal ++ earlier) ≠ some .create :=
    Session.unconfirmed_ne_of_adds fails.adds fun _ => Stage.change?_of_mayNote elsewhere
  have sameId := (reconciler.failing_unchanged final begun phase error).1
  cases fails with
  | create entered _ =>
      exact fun _ => .inl (sameId.trans ((moved_unchanged entered).1.trans owes.1))
  | createAnswer entered _ _ =>
      exact fun _ => .inl (sameId.trans ((moved_unchanged entered).1.trans owes.1))
  | await waits entered _ =>
      intro isCreate
      cases stage with
      | finish id awaited =>
          cases waits
          have owed : unconfirmed (session.journal ++ earlier) = some .create :=
            Decidable.byContradiction fun other => kept nofun other isCreate
          rcases owes.1 owed with ⟨rfl, -⟩
          exact .inr (resumes_of_failing entered)
      | finishDelete id => exact owes.elim
      | _ => cases waits
  | applyTags _ => exact Record.remembers_of_ne (kept nofun owes.1)
  | readBack _ _ => exact Record.remembers_of_ne (kept nofun owes.1)
  | vanished _ _ => exact Record.remembers_of_ne (kept nofun owes.1)
  | refresh _ _ _ _ _ => exact Record.remembers_of_ne (kept nofun owes.1)
  | send _ _ => exact Record.remembers_of_ne (kept nofun owes.1)
  | delete _ _ _ _ _ => exact owes.elim

/-- Every step of a pass keeps `Stage.Owes`. -/
theorem owes_of_step {standing next : Standing World}
    (owes : standing.stage.Owes earlier standing.session standing.record)
    (step : reconciler.Step adapter standing next) :
    next.stage.Owes earlier next.session next.record := by
  have kept (elsewhere : ∀ desired, standing.stage ≠ .create desired) :
      unconfirmed (standing.session.journal ++ earlier) ≠ some .create →
        unconfirmed (next.session.journal ++ earlier) ≠ some .create :=
    Session.unconfirmed_ne_of_adds step.adds fun _ => Stage.change?_of_mayNote elsewhere
  have unsettled (elsewhere : standing.stage.awaited? = none) :
      ¬Settled standing.session.journal → ¬Settled next.session.journal :=
    Session.not_settled_of_adds step.adds fun _ => Stage.isSettled_of_mayNote elsewhere
  have closes {id : Identifier} {phase : Phase}
      (ending : standing.stage = .tagAndObserve id phase ∨
        standing.stage = .observe id phase)
      (before : standing.session.Closes) : next.session.Closes :=
    before.of_adds step.adds fun _ => Stage.isQuiet_of_mayNote ending
  cases step with
  | declined declines =>
      exact ⟨remembers_of_declines owes declines,
        fun converged => absurd converged declines.ne_converged⟩
  | failed fails =>
      exact ⟨remembers_of_fails owes fails,
        fun converged => absurd converged (failing_ne_converged _ _ _ _ _)⟩
  | begins accepts _ => exact ⟨checkedId_eq_ok_none_iff.1 accepts.readable, owes.2⟩
  | @resumes desired schema id phase record session accepts resumption =>
      refine ⟨fun isCreate => ?_, owes.2⟩
      have known := (checkedId_eq_ok_some_iff.1 accepts.readable).1
      rcases owes.1 isCreate with unknown | resumes
      · rw [known] at unknown
        cases unknown
      · rw [resumption] at resumes
        exact ⟨Option.some.inj resumes, resumption.trans resumes⟩
  | @updates desired schema id record session accepts resumption =>
      refine ⟨fun isCreate => ?_, owes.2⟩
      have known := (checkedId_eq_ok_some_iff.1 accepts.readable).1
      rcases owes.1 isCreate with unknown | resumes
      · rw [known] at unknown
        cases unknown
      · rw [resumption] at resumes
        cases resumes
  | created entered _ _ =>
      have isCreating := state_of_moved entered
      refine ⟨fun _ => ⟨rfl, ?_⟩, unsettled rfl owes.2⟩
      simp only [isCreating]
      rfl
  | reached _ awaited =>
      rcases reconciler.settled_of_await_ok adapter _ awaited with ⟨before, journal⟩
      constructor
      · simp [journal, unconfirmed, Event.isSettled]
      · intro _
        simp [journal, unconfirmed, Event.isSettled]
  | tagged _ => exact ⟨kept nofun owes.1, closes (.inl rfl) owes.2⟩
  | observed _ _ _ =>
      have confirmed := kept nofun owes.1
      exact ⟨Record.remembers_of_ne confirmed,
        fun _ => ⟨confirmed, closes (.inr rfl) owes.2⟩⟩
  | refreshed _ _ _ _ _ => exact ⟨kept nofun owes.1, unsettled rfl owes.2⟩
  | gone _ _ _ _ _ _ => exact ⟨rfl, unsettled rfl owes.2⟩
  | unchanged _ _ _ _ _ =>
      exact ⟨Record.remembers_of_ne owes.1, fun _ => ⟨owes.1, .of_not_settled owes.2⟩⟩
  | differs _ _ _ _ => exact owes
  | sentNone _ _ =>
      exact ⟨kept nofun owes.1, .of_not_settled (unsettled rfl owes.2)⟩
  | sent _ _ _ =>
      exact ⟨fun isCreate => absurd isCreate (kept nofun owes.1), unsettled rfl owes.2⟩
  | unknown _ => exact owes.elim
  | resumesDelete _ _ => exact owes.elim
  | deleting _ _ _ _ _ => exact owes.elim
  | deleted _ _ _ => exact owes.elim

end Reconciler

/-! ## Histories -/

section

variable {World : Type} {adapter : Adapter}

/-- A pass keeps what is owed, and a pass that converges owes no create. -/
theorem Pass.remembers_after {earlier : List Event} (pass : Pass World adapter)
    (reconciles : ∃ desired, pass.goal = .reconcile desired)
    (remembers : pass.before.Remembers earlier) :
    pass.after.Remembers (pass.journal ++ earlier) ∧
      (pass.outcome = .converged →
        unconfirmed (pass.journal ++ earlier) ≠ some .create ∧ pass.final.Closes) := by
  rcases reconciles with ⟨desired, goal⟩
  have ran := pass.ranFrom
  rw [goal] at ran
  have unsettled : ¬Settled (Session.fresh pass.world).journal := by
    rintro ⟨event, member, -⟩
    cases member
  exact Reconciler.invariant_of_runFrom
    (fun standing next => Reconciler.owes_of_step) ran ⟨remembers, unsettled⟩

/-- What the passes of a history did to the outside, latest event first. -/
def journalOf (passes : List (Pass World adapter)) : List Event :=
  passes.flatMap Pass.journal

theorem journalOf_cons (pass : Pass World adapter) (passes : List (Pass World adapter)) :
    journalOf (pass :: passes) = pass.journal ++ journalOf passes := rfl

variable {start record : Record} {passes : List (Pass World adapter)}
variable {last pass : Pass World adapter}

theorem History.remembers (history : History start passes record)
    (reconcile : ∀ pass ∈ passes, ∃ desired, pass.goal = .reconcile desired) :
    record.Remembers (journalOf passes) := by
  induction history with
  | nil =>
      intro unconfirmed
      cases unconfirmed
  | cons _ pass continues ih =>
      rcases List.forall_mem_cons.1 reconcile with ⟨reconciles, reconcile⟩
      exact (pass.remembers_after reconciles (continues ▸ ih reconcile)).1

/-- Every pass that left an update unconfirmed was followed by one that reached a
target. -/
def UpdatesFollowed (passes : List (Pass World adapter)) : Prop :=
  ∀ later pass earlier, passes = later ++ pass :: earlier →
    unconfirmed pass.journal = some .update → ∃ other ∈ later, Settled other.journal

theorem updatesFollowed_cons :
    UpdatesFollowed (pass :: passes) ↔
      unconfirmed pass.journal ≠ some .update ∧
        (Settled pass.journal ∨ UpdatesFollowed passes) := by
  constructor
  · intro followed
    constructor
    · intro leaves
      rcases followed [] pass passes rfl leaves with ⟨other, member, -⟩
      cases member
    · by_cases settled : Settled pass.journal
      · exact .inl settled
      · right
        intro later leaver earlier split leaves
        have split' : pass :: passes = (pass :: later) ++ leaver :: earlier := by
          rw [split, List.cons_append]
        rcases followed (pass :: later) leaver earlier split' leaves with
          ⟨other, member, otherSettled⟩
        rcases List.mem_cons.1 member with rfl | member
        · exact absurd otherSettled settled
        · exact ⟨other, member, otherSettled⟩
  · intro both later leaver earlier split leaves
    cases later with
    | nil =>
        cases split
        exact absurd leaves both.1
    | cons first later =>
        rcases List.cons.inj split with ⟨rfl, split'⟩
        rcases both.2 with settled | followed
        · exact ⟨pass, List.mem_cons_self, settled⟩
        · rcases followed later leaver earlier split' leaves with
            ⟨other, member, otherSettled⟩
          exact ⟨other, List.mem_cons_of_mem _ member, otherSettled⟩

/-- Where no create is unconfirmed, all changes are confirmed exactly when the updates
have been followed. -/
theorem unconfirmed_journalOf_iff
    (noCreate : unconfirmed (journalOf passes) ≠ some .create) :
    unconfirmed (journalOf passes) = none ↔ UpdatesFollowed passes := by
  induction passes with
  | nil => simp [journalOf, unconfirmed, UpdatesFollowed]
  | cons pass passes ih =>
      rw [journalOf_cons, unconfirmed_append_eq_none_iff, updatesFollowed_cons]
      rw [journalOf_cons] at noCreate
      cases leaves : unconfirmed pass.journal with
      | some phase =>
          rw [unconfirmed_append_of_ne (by simp [leaves]), leaves] at noCreate
          cases phase with
          | create => exact absurd rfl noCreate
          | update => simp
          | delete => exact absurd leaves unconfirmed_ne_delete
      | none =>
          by_cases settled : Settled pass.journal
          · simp [settled]
          · have quiet := all_isQuiet_of_unconfirmed settled leaves
            rw [unconfirmed_append, if_pos quiet] at noCreate
            simp [settled, ih noCreate]

/-- Every change of a history of reconciles whose latest pass converged is confirmed
exactly when that pass reached a target itself, or else asked for no change and the
updates of the passes before have been followed. -/
theorem History.confirmed_iff (history : History start (last :: passes) record)
    (reconcile : ∀ pass ∈ last :: passes, ∃ desired, pass.goal = .reconcile desired)
    (converged : last.outcome = .converged) :
    Confirmed (journalOf (last :: passes)) ↔
      Settled last.journal ∨
        (∀ event ∈ last.journal, event.change? = none) ∧ UpdatesFollowed passes := by
  have remembers : last.before.Remembers (journalOf passes) := by
    cases history with
    | cons earlier last continues =>
        rw [continues]
        apply earlier.remembers
        intro pass member
        exact reconcile pass (List.mem_cons_of_mem _ member)
  rcases last.remembers_after (reconcile last List.mem_cons_self) remembers with ⟨-, ended⟩
  rcases ended converged with ⟨noCreate, closes⟩
  rw [confirmed_iff_unconfirmed, journalOf_cons, unconfirmed_append_eq_none_iff]
  by_cases settled : Settled last.journal
  · have confirmed : unconfirmed last.journal = none := closes settled
    simp [settled, confirmed]
  · rw [or_iff_right settled, or_iff_right settled, ← all_isQuiet_iff settled]
    constructor
    · intro confirmed
      have quiet := all_isQuiet_of_unconfirmed settled confirmed.1
      rw [unconfirmed_append, if_pos quiet] at noCreate
      exact ⟨quiet, (unconfirmed_journalOf_iff noCreate).1 confirmed.2⟩
    · intro followed
      rw [unconfirmed_append, if_pos followed.1] at noCreate
      exact ⟨unconfirmed_of_all_isQuiet followed.1,
        (unconfirmed_journalOf_iff noCreate).2 followed.2⟩

end

namespace Simulation.Disk

/-- A disk of size 1 is created. -/
def creates : Pass World adapter :=
  .ofEnded reconciler adapter {} (.reconcile (sized 1))
    (world [("Create", [created]), ("Describe", [found 1 "ready", found 1 "ready"])])
    (by decide +kernel)

/-- The disk is to be enlarged, but breaks. -/
def breaksUpdate : Pass World adapter :=
  .ofEnded reconciler adapter creates.after (.reconcile (sized 2))
    (world [("Set-size", [accepted]), ("Describe", [found 1 "ready", found 2 "broken"])])
    (by decide +kernel)

/-- The broken disk has the size that is wanted. -/
def overlooks : Pass World adapter :=
  .ofEnded reconciler adapter breaksUpdate.after (.reconcile (sized 2))
    (world [("Describe", [found 2 "broken"])])
    (by decide +kernel)

theorem history_of_overlooks : History {} [overlooks, breaksUpdate, creates] overlooks.after :=
  .cons (.cons (.cons .nil creates rfl) breaksUpdate rfl) overlooks rfl

theorem goals_of_overlooks :
    ∀ pass ∈ [overlooks, breaksUpdate, creates], ∃ desired, pass.goal = .reconcile desired := by
  simp only [List.forall_mem_cons]
  exact ⟨⟨_, rfl⟩, ⟨_, rfl⟩, ⟨_, rfl⟩, by simp⟩

theorem broken_update_confirmed_iff :
    Confirmed (journalOf [overlooks, breaksUpdate, creates]) ↔
      Settled overlooks.journal ∨
        (∀ event ∈ overlooks.journal, event.change? = none) ∧
          UpdatesFollowed [breaksUpdate, creates] :=
  history_of_overlooks.confirmed_iff goals_of_overlooks (by decide +kernel)

/-- The last pass converges although no wait reached its target after the update. -/
theorem broken_update_unconfirmed :
    History {} [overlooks, breaksUpdate, creates] overlooks.after ∧
      overlooks.outcome = .converged ∧
      ¬Confirmed (journalOf [overlooks, breaksUpdate, creates]) := by
  refine ⟨history_of_overlooks, by decide +kernel, ?_⟩
  rw [confirmed_iff_unconfirmed]
  decide +kernel

end Simulation.Disk

end ControlLoop
