import ControlLoop.Proofs.Confirmation
import ControlLoop.Proofs.Report
import ControlLoop.Proofs.Update

/-!
# The order of mutations

A pass changes the resource before it changes the tags of the resource, and between the
two a whole wait reaches its target.  Once it has changed a tag it changes nothing of the
resource any more.  Pairs are set before keys are removed.  A delete leaves the tags alone.

The order comes from the stages: tags are changed at one stage only, and the stages before
it and after it note no change of tags (`Stage.Arranges`).

Main statement: `Pass.orders_mutations`.
-/

namespace ControlLoop

namespace Event

/-- Whether an event is an attempt to set tags. -/
def isReplacement : Event → Bool
  | .tagged _ (.replace _) _ => true
  | _ => false

/-- Whether an event is an attempt to remove tags. -/
def isRemoval : Event → Bool
  | .tagged _ (.delete _) _ => true
  | _ => false

/-- Whether an event is an attempt to change tags. -/
def changesTags (event : Event) : Bool :=
  event.isReplacement || event.isRemoval

/-- Whether an event is a status read of a wait. -/
def isStatusRead (phase : Phase) : Event → Bool
  | .called purpose _ _ => purpose == .poll phase
  | _ => false

/-- Only creates and updates are changes of the resource. -/
theorem isWrite_of_change? {event : Event} (changes : event.change? ≠ none) :
    event.IsWrite := by
  cases event with
  | called purpose request answer =>
      cases purpose with
      | create => rfl
      | update => rfl
      | _ => exact absurd rfl changes
  | _ => exact absurd rfl changes

/-- A change of tags is no call. -/
theorem not_isWrite_of_isTagChange {event : Event} (isChange : event.IsTagChange) :
    ¬event.IsWrite := by
  cases event with
  | called purpose request answer => exact absurd isChange id
  | _ => exact id

end Event

/-- A whole wait that reached its target: the mark of the target as the latest event, and
before it the status reads of the wait, with the sleeps between them. -/
inductive IsWait : List Event → Prop where
  | settled {phase : Phase} {reads : List Event} :
      (∀ event ∈ reads, event.IsCall (.poll phase)) →
      (∃ event ∈ reads, event.isStatusRead phase = true) →
      IsWait (.settled phase :: reads)

/-- The mutations in a journal, latest event first, are in order. -/
structure InOrder (journal : List Event) : Prop where
  /-- If there are changes of the resource and of its tags, a whole wait reached its
  target after the last change of the resource and before the first change of tags. -/
  confirmed : (∃ event ∈ journal, event.change? ≠ none) →
    (∃ event ∈ journal, event.changesTags = true) →
    ∃ later wait earlier, journal = later ++ wait ++ earlier ∧ IsWait wait ∧
      (∀ event ∈ later, event.change? = none) ∧
      ∀ event ∈ earlier, event.changesTags = false
  /-- After a change of tags nothing of the resource is changed. -/
  closed : journal.Pairwise fun later earlier =>
    earlier.changesTags = true → ¬later.IsWrite
  /-- After a removal of tags none are set. -/
  removesLast : journal.Pairwise fun later earlier =>
    earlier.isRemoval = true → later.isReplacement = false

/-- No tags are changed in a journal. -/
def Untagged (journal : List Event) : Prop :=
  ∀ event ∈ journal, event.changesTags = false

/-- The changes of the resource in a journal, if there are any, were followed by a whole
wait that ended last. -/
def JustConfirmed (journal : List Event) : Prop :=
  (∃ event ∈ journal, event.change? ≠ none) →
    ∃ wait earlier, journal = wait ++ earlier ∧ IsWait wait

section

variable {events journal : List Event}

theorem Untagged.inOrder (untagged : Untagged journal) : InOrder journal where
  confirmed := by
    rintro - ⟨event, member, changes⟩
    rw [untagged event member] at changes
    cases changes
  closed := by
    apply List.pairwise_of_forall_mem_list
    intro later _ earlier member changes
    rw [untagged earlier member] at changes
    cases changes
  removesLast := by
    apply List.pairwise_of_forall_mem_list
    intro later _ earlier member removes
    have changes : earlier.changesTags = true := by simp [Event.changesTags, removes]
    rw [untagged earlier member] at changes
    cases changes

/-- Events that change neither the resource nor its tags keep the order. -/
theorem InOrder.append (inOrder : InOrder journal)
    (inert : ∀ event ∈ events, ¬event.IsWrite ∧ event.changesTags = false) :
    InOrder (events ++ journal) where
  confirmed := by
    rintro ⟨change, isIn, changes⟩ ⟨tagging, isIn', tags⟩
    have old {event : Event} (member : event ∈ events ++ journal)
        (active : event.IsWrite ∨ event.changesTags = true) : event ∈ journal := by
      cases List.mem_append.1 member with
      | inr old => exact old
      | inl new =>
          obtain ⟨notWrite, notTags⟩ := inert event new
          cases active with
          | inl writes => exact absurd writes notWrite
          | inr tags => simp [notTags] at tags
    obtain ⟨later, wait, earlier, split, isWait, unchanged, untagged⟩ :=
      inOrder.confirmed ⟨change, old isIn (.inl (Event.isWrite_of_change? changes)), changes⟩
        ⟨tagging, old isIn' (.inr tags), tags⟩
    refine ⟨events ++ later, wait, earlier, by simp [split], isWait, ?_, untagged⟩
    intro event member
    cases List.mem_append.1 member with
    | inl new =>
        apply Classical.byContradiction
        intro changes
        exact (inert event new).1 (Event.isWrite_of_change? changes)
    | inr old => exact unchanged event old
  closed := by
    apply List.pairwise_append.2
    refine ⟨?_, inOrder.closed, fun later new _ _ _ => (inert later new).1⟩
    apply List.pairwise_of_forall_mem_list
    intro later new _ _ _
    exact (inert later new).1
  removesLast := by
    have keeps (later : Event) (new : later ∈ events) : later.isReplacement = false := by
      have notTags := (inert later new).2
      simp only [Event.changesTags, Bool.or_eq_false_iff] at notTags
      exact notTags.1
    apply List.pairwise_append.2
    refine ⟨?_, inOrder.removesLast, fun later new _ _ _ => keeps later new⟩
    apply List.pairwise_of_forall_mem_list
    intro later new _ _ _
    exact keeps later new

/-- A change of tags that sets first and removes last, made where the resource is as it
should be, keeps the order. -/
theorem InOrder.of_tagging {removals replacements : List Event}
    (confirmed : JustConfirmed journal) (untagged : Untagged journal)
    (areTags : ∀ event ∈ removals ++ replacements, event.IsTagChange)
    (remove : ∀ event ∈ removals, event.isReplacement = false)
    (replace : ∀ event ∈ replacements, event.isRemoval = false) :
    InOrder (removals ++ replacements ++ journal) where
  confirmed := by
    rintro ⟨change, isIn, changes⟩ -
    have noChange (event : Event) (new : event ∈ removals ++ replacements) :
        event.change? = none := by
      apply Classical.byContradiction
      intro changes
      exact Event.not_isWrite_of_isTagChange (areTags event new)
        (Event.isWrite_of_change? changes)
    have old : change ∈ journal := by
      cases List.mem_append.1 isIn with
      | inl new => exact absurd (noChange change new) changes
      | inr old => exact old
    obtain ⟨wait, earlier, split, isWait⟩ := confirmed ⟨change, old, changes⟩
    refine ⟨removals ++ replacements, wait, earlier, by simp [split], isWait, noChange, ?_⟩
    intro event member
    exact untagged event (split ▸ List.mem_append_right wait member)
  closed := by
    apply List.pairwise_append.2
    refine ⟨?_, untagged.inOrder.closed, fun later new _ _ _ =>
      Event.not_isWrite_of_isTagChange (areTags later new)⟩
    apply List.pairwise_of_forall_mem_list
    intro later new _ _ _
    exact Event.not_isWrite_of_isTagChange (areTags later new)
  removesLast := by
    apply List.pairwise_append.2
    refine ⟨?_, untagged.inOrder.removesLast, ?_⟩
    · apply List.pairwise_append.2
      refine ⟨?_, ?_, fun later new _ _ _ => remove later new⟩
      · apply List.pairwise_of_forall_mem_list
        intro later new _ _ _
        exact remove later new
      · apply List.pairwise_of_forall_mem_list
        intro later _ earlier member removes
        simp [replace earlier member] at removes
    · intro later _ earlier member removes
      have changes : earlier.changesTags = true := by simp [Event.changesTags, removes]
      simp [untagged earlier member] at changes

end

/-! ## What the steps note -/

namespace Executor

variable {World : Type} {executor : Executor World} {session final : Session World}

/-- A change of tags sets pairs first and removes keys last. -/
theorem journal_of_applyTags {resource : TagResource} {delta : TagDelta}
    {policy : RetryPolicy} {result : Except TagError Unit}
    (ran : executor.applyTags resource delta policy session = some (result, final)) :
    ∃ removals replacements, final.journal = removals ++ replacements ++ session.journal ∧
      (∀ event ∈ removals, event.isReplacement = false) ∧
      ∀ event ∈ replacements, event.isRemoval = false := by
  obtain ⟨answer, middle, replaced, ran⟩ := Run.bind_eq_some_iff.1 ran
  have sets : Session.Adds (fun event => event.isRemoval = false) session middle := by
    revert replaced
    rw [replaceTags]
    split
    · exact Run.Notes.pure _ _ _ _
    · apply Run.Notes.bind
      · apply executor.retry_notes
        · exact Environment.callTags_notes _ _ _ fun _ => rfl
        · exact fun _ _ => rfl
      · exact fun _ => .pure _
  have removes : Session.Adds (fun event => event.isReplacement = false) middle final := by
    cases answer with
    | error error =>
        cases ran
        exact .refl _
    | ok done =>
        revert ran
        dsimp only
        rw [deleteTags]
        split
        · exact Run.Notes.pure _ _ _ _
        · apply Run.Notes.bind
          · apply executor.retry_notes
            · exact Environment.callTags_notes _ _ _ fun _ => rfl
            · exact fun _ _ => rfl
          · exact fun _ => .pure _
  obtain ⟨replacements, grown, replace⟩ := sets
  obtain ⟨removals, grown', remove⟩ := removes
  exact ⟨removals, replacements, by rw [grown', grown, List.append_assoc], remove, replace⟩

end Executor

namespace Reconciler

variable {World : Type} {reconciler : Reconciler World} {adapter : Adapter}
variable {session final : Session World} {record begun : Record} {stage : Stage}

theorem journal_of_applyTags {id : Identifier} {result : Except PassError Unit}
    (ran : reconciler.applyTags adapter record id session = some (result, final)) :
    ∃ removals replacements, final.journal = removals ++ replacements ++ session.journal ∧
      (∀ event ∈ removals, event.isReplacement = false) ∧
      ∀ event ∈ replacements, event.isRemoval = false := by
  have nothing : ∃ removals replacements,
      session.journal = removals ++ replacements ++ session.journal ∧
      (∀ event ∈ removals, event.isReplacement = false) ∧
      ∀ event ∈ replacements, event.isRemoval = false :=
    ⟨[], [], rfl, nofun, nofun⟩
  rw [applyTags] at ran
  cases place : adapter.tagResource id with
  | none =>
      simp only [place] at ran
      cases ran
      exact nothing
  | some resource =>
      simp only [place] at ran
      obtain ⟨answer, middle, synced, ran⟩ := Run.bind_eq_some_iff.1 ran
      have same : final = middle := by cases answer <;> cases ran <;> rfl
      rw [same]
      rw [Executor.syncTags] at synced
      split at synced
      · cases synced
        exact nothing
      · obtain ⟨applied, last, changed, synced⟩ := Run.bind_eq_some_iff.1 synced
        cases synced
        exact Executor.journal_of_applyTags changed

/-- A wait that succeeds adds a whole wait that reached its target. -/
theorem journal_of_await_ok {id : Identifier} {phase : Phase}
    (ran : reconciler.await adapter id phase session = some (.ok (), final)) :
    ∃ wait, final.journal = wait ++ session.journal ∧ IsWait wait ∧ Untagged wait := by
  obtain ⟨waited, middle, ranWait, ran⟩ := Run.bind_eq_some_iff.1 ran
  have calls := reconciler.executor.environment.call_notes (.poll phase)
    (adapter.readRequest id)
  have reading : Run.Notes (do
      let answer ← reconciler.executor.environment.call (.poll phase)
        (adapter.readRequest id)
      return answer.bind adapter.readStatus) (Event.IsCall (.poll phase)) :=
    .bind calls fun _ => .pure _
  obtain ⟨reads, grown, areReads⟩ :=
    reconciler.executor.await_notes _ _ _ reading (fun _ _ => trivial) _ _ _ ranWait
  cases waited with
  | error error => cases ran
  | ok status =>
      obtain ⟨noted, last, notes, returned⟩ := Run.bind_eq_some_iff.1 ran
      cases notes
      cases returned
      have gains : Session.Gains (fun event => event.isStatusRead phase = true) session
          middle := by
        refine reconciler.executor.gains_of_await_ok ?_ reading (fun _ _ => trivial) ranWait
        intro earlier answer later read
        obtain ⟨given, called, asked, read⟩ := Run.bind_eq_some_iff.1 read
        cases read
        apply Session.Gains.of_cons
          (reconciler.executor.environment.call_notesAnswer _ _ _ _ _ asked)
        simp [Event.isStatusRead]
      obtain ⟨events, grown', isRead⟩ := gains
      have same : events = reads := List.append_cancel_right (grown'.symm.trans grown)
      subst same
      refine ⟨.settled phase :: events, by simp [grown], .settled areReads isRead, ?_⟩
      intro event member
      cases List.mem_cons.1 member with
      | inl mark =>
          rw [mark]
          rfl
      | inr read =>
          have isCall := areReads event read
          cases event with
          | tagged resource call failure => exact False.elim isCall
          | _ => rfl

end Reconciler

/-! ## Along a pass -/

namespace Stage

/-- Whether tags are changed at a stage. -/
def isTagging : Stage → Bool
  | .tagAndObserve _ _ => true
  | _ => false

theorem not_changesTags_of_mayNote {stage : Stage} {event : Event}
    (elsewhere : stage.isTagging = false) (may : stage.MayNote event) :
    event.changesTags = false := by
  cases event with
  | tagged resource call failure =>
      cases stage <;>
        simp_all [isTagging, MayNote, Event.IsCall, Event.IsTagRead, Event.changesTags,
          Event.isReplacement, Event.isRemoval]
  | _ => rfl

/-- What a stage finds in the journal: no change of tags before the stage that makes
them, and there nothing of the resource that was changed and not waited for. -/
def Arranges (journal : List Event) : Stage → Prop
  | .reconcile _ => Untagged journal ∧ ∀ event ∈ journal, event.change? = none
  | .update _ _ _ => Untagged journal ∧ ∀ event ∈ journal, event.change? = none
  | .compareAndSend _ _ _ => Untagged journal ∧ ∀ event ∈ journal, event.change? = none
  | .sendUpdates _ _ _ => Untagged journal ∧ ∀ event ∈ journal, event.change? = none
  | .create _ => Untagged journal
  | .finish _ _ => Untagged journal
  | .tagAndObserve _ _ => Untagged journal ∧ JustConfirmed journal
  | .observe _ _ => InOrder journal
  | .delete => Untagged journal
  | .finishDelete _ => Untagged journal
  | .ended _ => InOrder journal

/-- The stages of a delete. -/
def Discards : Stage → Prop
  | .delete => True
  | .finishDelete _ => True
  | .ended _ => True
  | _ => False

/-- The order is kept at every stage. -/
theorem Arranges.inOrder {stage : Stage} {journal : List Event}
    (arranges : stage.Arranges journal) : InOrder journal := by
  cases stage with
  | observe id phase => exact arranges
  | ended outcome => exact arranges
  | create desired => exact Untagged.inOrder arranges
  | finish id phase => exact Untagged.inOrder arranges
  | delete => exact Untagged.inOrder arranges
  | finishDelete id => exact Untagged.inOrder arranges
  | _ => exact arranges.1.inOrder

end Stage

namespace Reconciler

variable {World : Type} {reconciler : Reconciler World} {adapter : Adapter}
variable {session final : Session World} {record begun : Record} {stage : Stage}

theorem untagged_of_step {standing next : Standing World}
    (untagged : Untagged standing.session.journal)
    (step : reconciler.Step adapter standing next)
    (elsewhere : standing.stage.isTagging = false) : Untagged next.session.journal :=
  step.adds.forall_mem untagged fun _ => Stage.not_changesTags_of_mayNote elsewhere

/-- A change of tags keeps the order, however it ends. -/
theorem inOrder_of_applyTags {id : Identifier} {result : Except PassError Unit}
    (untagged : Untagged session.journal) (confirmed : JustConfirmed session.journal)
    (applied : reconciler.applyTags adapter record id session = some (result, final)) :
    InOrder final.journal := by
  obtain ⟨removals, replacements, grown, remove, replace⟩ := journal_of_applyTags applied
  obtain ⟨events, grown', areTags⟩ := reconciler.applyTags_notes adapter _ _ _ _ _ applied
  have same : events = removals ++ replacements :=
    List.append_cancel_right (grown'.symm.trans grown)
  subst same
  rw [grown]
  exact .of_tagging confirmed untagged areTags remove replace

/-- Reading back keeps the order. -/
theorem inOrder_of_readBack {id : Identifier}
    {result : Except PassError (Option ObservedState)} (inOrder : InOrder session.journal)
    (read : reconciler.read adapter id .readBack session = some (result, final)) :
    InOrder final.journal := by
  obtain ⟨events, grown, areReads⟩ := reconciler.read_notes adapter _ _ _ _ _ read
  rw [grown]
  apply inOrder.append
  intro event member
  cases areReads event member with
  | inl isCall =>
      cases event with
      | called purpose request answer =>
          cases isCall
          exact ⟨nofun, rfl⟩
      | tagged resource call failure => exact False.elim isCall
      | _ => exact ⟨False.elim, rfl⟩
  | inr isRead =>
      cases event with
      | tagged resource call failure =>
          cases isRead
          exact ⟨False.elim, rfl⟩
      | called purpose request answer => exact False.elim isRead
      | _ => exact ⟨False.elim, rfl⟩

/-- A failed step keeps the order. -/
theorem Fails.inOrder {phase : Phase} {error : PassError}
    (arranges : stage.Arranges session.journal)
    (fails : reconciler.Fails adapter session record stage phase error begun final) :
    InOrder final.journal := by
  have untouched (untagged : Untagged session.journal) (elsewhere : stage.isTagging = false) :
      InOrder final.journal :=
    Untagged.inOrder (fails.adds.forall_mem untagged fun _ =>
      Stage.not_changesTags_of_mayNote elsewhere)
  cases fails with
  | applyTags applied => exact inOrder_of_applyTags arranges.1 arranges.2 applied
  | readBack _ read => exact inOrder_of_readBack arranges read
  | vanished _ read => exact inOrder_of_readBack arranges read
  | create _ _ => exact untouched arranges rfl
  | createAnswer _ _ _ => exact untouched arranges rfl
  | delete _ _ _ _ _ => exact untouched arranges rfl
  | refresh _ _ _ _ _ => exact untouched arranges.1 rfl
  | send _ _ => exact untouched arranges.1 rfl
  | await waits _ _ =>
      cases stage with
      | finish id awaited => exact untouched arranges rfl
      | finishDelete id => exact untouched arranges rfl
      | _ => cases waits

/-- Every step keeps the order, if no request is sent where there is nothing to update. -/
theorem arranges_of_step (frugal : ∀ id, adapter.updateRequests id [] = [])
    {standing next : Standing World}
    (arranges : standing.stage.Arranges standing.session.journal)
    (step : reconciler.Step adapter standing next) :
    next.stage.Arranges next.session.journal := by
  have untouched (untagged : Untagged standing.session.journal)
      (elsewhere : standing.stage.isTagging = false) : Untagged next.session.journal :=
    untagged_of_step untagged step elsewhere
  cases step with
  | declined _ => exact arranges.inOrder
  | failed fails => exact fails.inOrder arranges
  | begins _ _ => exact arranges.1
  | resumes _ _ => exact arranges.1
  | updates _ _ => exact arranges
  | created _ _ _ => exact untouched arranges rfl
  | reached _ awaited =>
      obtain ⟨wait, grown, isWait, -⟩ := journal_of_await_ok awaited
      exact ⟨untouched arranges rfl, fun _ => ⟨wait, _, grown, isWait⟩⟩
  | tagged applied => exact inOrder_of_applyTags arranges.1 arranges.2 applied
  | observed _ read _ => exact inOrder_of_readBack arranges read
  | refreshed _ _ _ _ read =>
      refine ⟨untouched arranges.1 rfl, ?_⟩
      apply (reconciler.read_notes adapter _ _ _ _ _ read).forall_mem arranges.2
      intro event noted
      cases event with
      | called purpose request answer =>
          cases noted with
          | inl isCall =>
              cases isCall
              rfl
          | inr isRead => exact False.elim isRead
      | _ => rfl
  | gone _ _ _ _ _ _ => exact untouched arranges.1 rfl
  | unchanged _ _ _ _ _ => exact arranges.1.inOrder
  | differs _ _ _ _ => exact arranges
  | sentNone _ sent =>
      rw [frugal] at sent
      cases sent
      refine ⟨arranges.1, ?_⟩
      rintro ⟨event, member, changes⟩
      exact absurd (arranges.2 event member) changes
  | sent _ _ _ => exact untouched arranges.1 rfl
  | unknown _ => exact Untagged.inOrder arranges
  | resumesDelete _ _ => exact arranges
  | deleting _ _ _ _ _ => exact untouched arranges rfl
  | deleted _ _ _ => exact Untagged.inOrder (untouched arranges rfl)

/-- The stages of a delete lead to others of a delete, and none of them changes tags. -/
theorem discards_of_step {standing next : Standing World}
    (discards : standing.stage.Discards ∧ Untagged standing.session.journal)
    (step : reconciler.Step adapter standing next) :
    next.stage.Discards ∧ Untagged next.session.journal := by
  obtain ⟨discards, untagged⟩ := discards
  refine ⟨?_, untagged_of_step untagged step ?_⟩
  · cases step with
    | declined _ => trivial
    | failed _ => trivial
    | observed _ _ _ => trivial
    | unchanged _ _ _ _ _ => trivial
    | unknown _ => trivial
    | resumesDelete _ _ => trivial
    | deleting _ _ _ _ _ => trivial
    | deleted _ _ _ => trivial
    | _ => exact False.elim discards
  · cases stage : standing.stage with
    | tagAndObserve id phase =>
        rw [stage] at discards
        exact False.elim discards
    | _ => rfl

end Reconciler

/-- The order of the mutations of a pass.  A reconcile makes them in order: the resource is
changed first, a whole wait confirms that, and the tags are changed last, where pairs are
set before keys are removed.  This asks of the adapter only that it builds no request where
there is nothing to update, since such requests are not waited for.  A delete changes no
tags at all. -/
theorem Pass.orders_mutations {World : Type} {adapter : Adapter}
    (pass : Pass World adapter) :
    (∀ desired, pass.goal = .reconcile desired →
      (∀ id, adapter.updateRequests id [] = []) → InOrder pass.journal) ∧
    (pass.goal = .delete → Untagged pass.journal) := by
  constructor
  · intro desired goal frugal
    have begins : pass.goal.stage.Arranges ([] : List Event) := by
      rw [goal]
      exact ⟨nofun, nofun⟩
    exact Reconciler.invariant_of_runFrom
      (fun _ _ => Reconciler.arranges_of_step frugal) pass.ranFrom begins
  · intro goal
    have begins : pass.goal.stage.Discards ∧ Untagged ([] : List Event) := by
      rw [goal]
      exact ⟨trivial, nofun⟩
    exact (Reconciler.invariant_of_runFrom (fun _ _ => Reconciler.discards_of_step)
      pass.ranFrom begins).2

namespace Simulation.Server

/-- The server gets more cores, and another owner takes it over.  The remote is busy at
first. -/
def handsOver : Pass World adapter :=
  .ofEnded reconciler adapter known (.reconcile (wanted 4 "secret" "blue"))
    (world [("Describe", [found 2 "ready", found 4 "ready", found 4 "ready"]),
      ("DescribeResourceTags", [tagged "owner" "red", tagged "team" "blue"]),
      ("Modify", [busy, accepted, accepted]),
      ("TagResources", [busy, accepted]), ("UnTagResources", [accepted])])
    (by decide +kernel)

/-- The server is given up, with its tags. -/
def givesUp : Pass World adapter :=
  .ofEnded reconciler adapter handsOver.after .delete
    (world [("Delete", [busy, accepted]), ("Describe", [{ answer := .ok (.object []) }])])
    (by decide +kernel)

theorem ordered_server_orders_mutations :
    handsOver.outcome = .converged ∧ givesUp.outcome = .deleted ∧
    (∃ event ∈ handsOver.journal, event.change? ≠ none) ∧
    (∃ event ∈ handsOver.journal, event.isReplacement = true) ∧
    (∃ event ∈ handsOver.journal, event.isRemoval = true) ∧
    InOrder handsOver.journal ∧ Untagged givesUp.journal := by
  refine ⟨by decide +kernel, by decide +kernel, ?_, by decide +kernel, by decide +kernel,
    handsOver.orders_mutations.1 (wanted 4 "secret" "blue") rfl fun _ => rfl,
    givesUp.orders_mutations.2 rfl⟩
  decide +kernel

end Simulation.Server

end ControlLoop
