import ControlLoop.Proofs.Agreement
import ControlLoop.Proofs.Convergence
import ControlLoop.Proofs.Delivery
import ControlLoop.Simulation.Server

/-!
# What an update sends

An update compares the desired state with what a refresh returned.  From then on the
mutations it plans are fixed: the requests for the fields that differ, and the changes of
tags.  It sends nothing else, in this order, and converges only after all of them were
accepted.  If there is nothing to send, or a field that must not change differs, it sends
nothing at all.

`Stage.planned?` says what is left to send at each stage, and `Reconciler.sends_of_step`
that a step sends what it takes from that.

Main statement: `Pass.sends_diff`.
-/

namespace ControlLoop

/-- Whether an event is an attempt to refresh the resource. -/
def Event.isRefresh : Event → Bool
  | .called .refresh _ _ => true
  | _ => false

theorem Event.IsFollowUp.not_isRefresh {event : Event} (followsUp : event.IsFollowUp) :
    event.isRefresh = false := by
  cases event with
  | called purpose request answer => cases purpose <;> first | rfl | cases followsUp
  | _ => rfl

namespace Stage

/-- The mutations that are left to send, at a stage after the comparison. -/
def planned? (adapter : Adapter) (record : Record) : Stage → Option (List Mutation)
  | .sendUpdates desired id updates =>
      some ((adapter.updateRequests id updates).map (.remote .update) ++
        adapter.tagMutations id desired.tags record.tags)
  | .finish id _ => some (adapter.tagMutations id record.desired.tags record.tags)
  | .tagAndObserve id _ => some (adapter.tagMutations id record.desired.tags record.tags)
  | .observe _ _ => some []
  | _ => none

/-- Whether a stage makes calls, and those only read. -/
def reads (stage : Stage) : Bool :=
  stage.purpose?.any fun purpose => purpose.kind != .write

/-- A stage that only reads attempts no mutation. -/
theorem attempt?_of_mayNote {stage : Stage} {event : Event} (reads : stage.reads = true)
    (may : stage.MayNote event) : event.attempt? = none := by
  cases event with
  | called purpose request answer =>
      rw [Stage.reads, purpose?_of_mayNote may] at reads
      simpa [Event.attempt?] using reads
  | tagged resource call failure =>
      cases stage <;> simp_all [Stage.reads, purpose?, MayNote, Event.IsCall,
        Event.IsTagRead, Event.attempt?]
  | _ => rfl

end Stage

namespace Reconciler

variable {World : Type} (reconciler : Reconciler World) (adapter : Adapter)

/-- Since a session, planned mutations have been delivered up to those that are left. -/
inductive Sends (planned : List Mutation) (opening : Session World) :
    Standing World → Prop where
  | goesOn {standing : Standing World} {sent left : List Mutation} :
      standing.stage.planned? adapter standing.record = some left →
      planned = sent ++ left →
      reconciler.executor.Delivers sent True opening standing.session →
      Sends planned opening standing
  | ends {outcome : Outcome} {record : Record} {session : Session World} :
      reconciler.executor.Delivers planned (outcome = .converged) opening session →
      Sends planned opening ⟨.ended outcome, record, session⟩

variable {reconciler adapter}
variable {session final : Session World} {record begun : Record} {stage : Stage}

/-- A failed step may leave anything that was planned. -/
theorem delivers_of_fails {phase : Phase} {error : PassError} {left : List Mutation}
    (plans : stage.planned? adapter record = some left)
    (fails : reconciler.Fails adapter session record stage phase error begun final) :
    reconciler.executor.Delivers left False session final := by
  have silently (reads : stage.reads = true) :
      reconciler.executor.Delivers [] False session final :=
    .of_adds fails.adds fun _ => Stage.attempt?_of_mayNote reads
  cases fails with
  | await waits _ _ =>
      cases stage with
      | finish waited awaited => exact (silently rfl).before left id
      | finishDelete waited => cases plans
      | _ => cases waits
  | applyTags applied =>
      cases plans
      exact (delivers_of_applyTags applied).imp False.elim
  | readBack _ _ => exact (silently rfl).before left id
  | vanished _ _ => exact (silently rfl).before left id
  | send _ sent =>
      cases plans
      exact (delivers_of_callAll rfl sent).before _ id
  | _ => cases plans

/-- Every step of an update sends what it takes from the plan. -/
theorem sends_of_step {planned : List Mutation} {opening : Session World}
    {standing next : Standing World}
    (sends : reconciler.Sends adapter planned opening standing)
    (step : reconciler.Step adapter standing next) :
    reconciler.Sends adapter planned opening next := by
  cases sends with
  | ends _ => exact absurd step.rank_lt (Nat.not_lt_zero _)
  | @goesOn _ sent left plans split delivered =>
      have silently (reads : standing.stage.reads = true) :
          reconciler.executor.Delivers sent True opening next.session := by
        have more : reconciler.executor.Delivers [] True standing.session next.session :=
          .of_adds step.adds fun _ => Stage.attempt?_of_mayNote reads
        exact List.append_nil sent ▸ delivered.trans trivial more
      cases step with
      | declined declines =>
          exact .ends (split ▸ delivered.before left declines.ne_converged)
      | failed fails =>
          have partly := delivers_of_fails plans fails
          refine .ends (split ▸ (delivered.trans trivial partly).imp ?_)
          exact failing_ne_converged _ _ _ _ _
      | reached entered _ =>
          rcases moved_unchanged entered with ⟨-, sameDesired, -, sameTags⟩
          refine .goesOn ?_ split (silently rfl)
          rw [← plans, Stage.planned?, Stage.planned?, sameDesired, sameTags]
      | tagged applied =>
          cases plans
          refine .goesOn rfl (split.trans (List.append_nil _).symm) ?_
          exact delivered.trans trivial ((delivers_of_applyTags applied).imp fun _ => rfl)
      | observed _ _ _ =>
          cases plans
          rw [List.append_nil] at split
          exact .ends (split ▸ (silently rfl).imp fun _ => trivial)
      | sentNone entered sent =>
          rcases moved_unchanged entered with ⟨-, -, -, sameTags⟩
          cases plans
          refine .goesOn rfl (split.trans ?_)
            (delivered.trans trivial ((delivers_of_callAll rfl sent).imp fun _ => rfl))
          rw [List.append_assoc, ← sameTags]
      | sent _ entered sent =>
          rcases moved_unchanged entered with ⟨-, -, -, sameTags⟩
          cases plans
          refine .goesOn rfl (split.trans ?_)
            (delivered.trans trivial ((delivers_of_callAll rfl sent).imp fun _ => rfl))
          rw [List.append_assoc, ← sameTags]
      | _ => cases plans

/-- The calls from a stage after the comparison on deliver what is planned there. -/
theorem delivers_of_runFrom {planned : List Mutation} {after : Record} {outcome : Outcome}
    (plans : stage.planned? adapter record = some planned)
    (ran : reconciler.runFrom adapter record stage session =
      some ((after, outcome), final)) :
    reconciler.executor.Delivers planned (outcome = .converged) session final := by
  have begins : reconciler.Sends adapter planned session ⟨stage, record, session⟩ :=
    .goesOn plans rfl (.refl session)
  generalize ended : (⟨.ended outcome, after, final⟩ : Standing World) = standing
  have sends : reconciler.Sends adapter planned session standing := by
    rw [← ended]
    exact invariant_of_runFrom (fun _ _ => sends_of_step) ran begins
  cases sends with
  | ends delivers =>
      cases ended
      exact delivers
  | goesOn plans _ _ =>
      cases ended
      cases plans

/-- An update whose refresh finds the resource compares it. -/
theorem compares_of_update {schema : ResourceSchema} {desired : DesiredState}
    {id : Identifier} {result : Result} {middle : Session World}
    {observed : ObservedState}
    (ran : reconciler.update adapter schema record desired id session =
      some (result, final))
    (made : final.journal ≠ session.journal)
    (found : reconciler.read adapter id .refresh session =
      some (.ok (some observed), middle)) :
    ∃ compared begun stale, reconciler.moved session record .diffing = .ok compared ∧
      fieldDiff compared desired schema = .ok stale ∧
      reconciler.moved session compared .observing = .ok begun ∧
      reconciler.runFrom adapter (begun.withObserved observed)
        (.compareAndSend schema desired id) middle = some (result, final) := by
  rcases goesOn_of_update ran with ⟨next, step, ran⟩
  cases step with
  | declined _ =>
      cases ran
      exact absurd rfl made
  | failed fails =>
      cases fails with
      | await waits _ _ => cases waits
      | refresh _ _ _ _ read => cases found.symm.trans read
  | refreshed entered differs _ observing read =>
      cases found.symm.trans read
      exact ⟨_, _, _, entered, differs, observing, ran⟩
  | gone _ _ _ _ read _ => cases found.symm.trans read

end Reconciler

namespace Pass

variable {World : Type} {adapter : Adapter} (pass : Pass World adapter)

/-- The attempts of the pass at mutations, earliest first. -/
def attempts : List Attempt :=
  attemptsOf pass.journal

/-- The pass refreshes a resource, and finds it. -/
structure Refreshes (id : Identifier) (observed : ObservedState) : Prop where
  addressed : pass.before.localId = some id
  made : pass.journal.any Event.isRefresh = true
  /-- What the refresh, which is the first thing that a pass does, returns. -/
  found : (pass.reconciler.read adapter id .refresh (.fresh pass.world)).map Prod.fst =
    some (.ok (some observed))

/-- The pass sends what a comparison of the desired with the observed state found. -/
structure SendsDiff (desired : DesiredState) (id : Identifier) (observed : ObservedState)
    (diff : FieldDiff) : Prop where
  /-- If a field differs that must not change, nothing is sent. -/
  frozen : diff.violations ≠ [] → pass.attempts = []
  /-- If nothing differs, nothing is sent, and the pass converges. -/
  unchanged : diff.violations = [] → diff.updates = [] →
    adapter.tagMutations id desired.tags observed.tags = [] →
    pass.attempts = [] ∧ pass.outcome = .converged ∧ pass.after.desired = desired ∧
      pass.after.lastObserved = observed ∧ pass.after.tags = observed.tags
  /-- Otherwise the changes of fields and then those of tags are delivered in order, and
  all of them if the pass converges. -/
  changed : diff.violations = [] →
    ¬(diff.updates = [] ∧ adapter.tagMutations id desired.tags observed.tags = []) →
    ∃ left, Delivery pass.reconciler.executor.Retries
      ((adapter.updateRequests id diff.updates).map (.remote .update) ++
        adapter.tagMutations id desired.tags observed.tags) pass.attempts left ∧
      (pass.outcome = .converged → left = [])

variable {pass} {desired : DesiredState} {schema : ResourceSchema} {id : Identifier}
variable {observed : ObservedState}

/-- A pass that refreshes a resource updates it. -/
theorem updates_of_refreshes (goal : pass.goal = .reconcile desired)
    (known : pass.reconciler.catalog.get? adapter.resourceType = some schema)
    (refreshes : pass.Refreshes id observed) :
    pass.reconciler.update adapter schema pass.before desired id (.fresh pass.world) =
      some ((pass.after, pass.outcome), pass.final) := by
  rcases List.any_eq_true.1 refreshes.made with ⟨event, made, isRefresh⟩
  have ran := pass.ranFrom
  rw [goal] at ran
  rcases Reconciler.goesOn_of_reconcile ran with ⟨next, step, ran⟩
  cases step with
  | declined _ =>
      rw [journal, ← (Prod.mk.inj (Option.some.inj ran)).2] at made
      cases made
  | failed fails =>
      cases fails with
      | await waits _ _ => cases waits
  | begins accepts _ =>
      have unknown := Reconciler.checkedId_eq_ok_none_iff.1 accepts.readable
      cases unknown.symm.trans refreshes.addressed
  | resumes accepts resumption =>
      have rests : pass.goal.stage.Rests pass.before := by
        rw [goal]
        exact ⟨by simp [refreshes.addressed], by simp [resumption]⟩
      rw [(pass.isFollowUp_of_rests rests event made).not_isRefresh] at isRefresh
      cases isRefresh
  | updates accepts _ =>
      have addressed := (Reconciler.checkedId_eq_ok_some_iff.1 accepts.readable).1
      cases addressed.symm.trans refreshes.addressed
      cases accepts.known.symm.trans known
      exact ran

/-- A pass that refreshes a resource and finds it compares it with the desired state. -/
theorem compares_of_refreshes (goal : pass.goal = .reconcile desired)
    (known : pass.reconciler.catalog.get? adapter.resourceType = some schema)
    (refreshes : pass.Refreshes id observed) :
    ∃ record session, record.state = .observing ∧
      record.desired = pass.before.desired ∧ record.lastObserved = observed ∧
      record.tags = observed.tags ∧ attemptsOf session.journal = [] ∧
      (∃ diff, Reconciler.fieldDiff record desired schema = .ok diff) ∧
      pass.reconciler.compareAndSend adapter schema record desired id session =
        some ((pass.after, pass.outcome), pass.final) := by
  rcases List.any_eq_true.1 refreshes.made with ⟨event, made, -⟩
  rcases Option.map_eq_some_iff.1 refreshes.found with ⟨⟨result, session⟩, found, rfl⟩
  have moves : pass.final.journal ≠ (Session.fresh pass.world).journal :=
    List.ne_nil_of_mem made
  rcases Reconciler.compares_of_update
    (updates_of_refreshes goal known refreshes) moves found with
    ⟨compared, begun, stale, entered, differs, observing, ran⟩
  have isObserving : begun.state = .observing := Reconciler.state_of_moved observing
  refine ⟨begun.withObserved observed, session, isObserving, ?_, rfl, rfl, ?_,
    diffAgainst_eq_ok _ differs, ran⟩
  · have sameDesired := (Reconciler.moved_unchanged entered).2.1
    exact (Reconciler.moved_unchanged observing).2.1.trans sameDesired
  · have reads : (Stage.update schema desired id).reads = true := rfl
    have adds := pass.reconciler.read_notes adapter id .refresh _ _ _ found
    exact attemptsOf_eq_nil (adds.forall_mem nofun fun _ => Stage.attempt?_of_mayNote reads)

theorem sendsDiff_of_refreshes (goal : pass.goal = .reconcile desired)
    (known : pass.reconciler.catalog.get? adapter.resourceType = some schema)
    (refreshes : pass.Refreshes id observed) :
    ∃ diff, diffAgainst desired.attributes
        ⟨observed.attributes, some pass.before.desired.attributes⟩ schema = .ok diff ∧
      pass.SendsDiff desired id observed diff := by
  rcases compares_of_refreshes goal known refreshes with
    ⟨record, session, isObserving, sameDesired, rfl, sameTags, silent, ⟨diff, differs⟩, ran⟩
  refine ⟨diff, sameDesired ▸ differs, ?_⟩
  have refound {compared : Record} {found : FieldDiff} {state : RecordState}
      (entered : pass.reconciler.moved session record state = .ok compared)
      (finds : Reconciler.fieldDiff compared desired schema = .ok found) :
      diff = found ∧ compared.tags = record.tags := by
    rcases Reconciler.moved_unchanged entered with ⟨-, sameDesired, sameObserved, sameTags⟩
    rw [Reconciler.fieldDiff, sameDesired, sameObserved] at finds
    exact ⟨Except.ok.inj (differs.symm.trans finds), sameTags⟩
  rcases Reconciler.goesOn_of_compareAndSend ran with ⟨next, step, ran⟩
  cases step with
  | declined declines =>
      have final := (Prod.mk.inj (Option.some.inj ran)).2
      cases declines with
      | refused enters refused =>
          cases enters
          exact absurd refused (Reconciler.moved_ne_error (by rw [isObserving]; rfl))
      | unreadableId start _ => cases start
      | undeclared compares entered undeclared =>
          cases compares
          rcases Reconciler.moved_unchanged entered with ⟨-, same, sameObserved, -⟩
          rw [Reconciler.fieldDiff, same, sameObserved] at undeclared
          cases differs.symm.trans undeclared
      | frozen compares entered finds frozen =>
          cases compares
          rcases refound entered finds with ⟨rfl, -⟩
          have violates : diff.violations ≠ [] := by
            rw [FieldDiff.isApplicable, List.isEmpty_eq_false_iff] at frozen
            exact frozen
          refine ⟨fun _ => ?_, fun none => absurd none violates,
            fun none => absurd none violates⟩
          rw [attempts, journal, ← final]
          exact silent
  | failed fails =>
      cases fails with
      | await waits _ _ => cases waits
  | @unchanged _ _ _ _ compared settled _ _ entered finds nothing noTags settles =>
      rcases refound entered finds with ⟨rfl, keptTags⟩
      rw [← Reconciler.tagMutations_eq_nil_iff, keptTags, sameTags] at noTags
      rw [FieldDiff.eq_of_isEmpty nothing]
      rcases Reconciler.moved_unchanged entered with ⟨-, -, keptObserved, -⟩
      rcases Reconciler.moved_unchanged settles with ⟨-, nowDesired, nowObserved, nowTags⟩
      have result := Prod.mk.inj (Option.some.inj ran)
      have ended := Prod.mk.inj result.1
      refine ⟨fun violates => absurd rfl violates, fun _ _ _ => ?_,
        fun _ changes => absurd ⟨rfl, noTags⟩ changes⟩
      rw [attempts, journal, ← result.2, ← ended.1, ← ended.2]
      exact ⟨silent, rfl, nowDesired, nowObserved.trans keptObserved,
        (nowTags.trans keptTags).trans sameTags⟩
  | differs entered finds applicable something =>
      rcases refound entered finds with ⟨rfl, keptTags⟩
      rw [FieldDiff.isApplicable, List.isEmpty_iff] at applicable
      rcases Reconciler.delivers_of_runFrom rfl ran with
        ⟨events, left, grown, delivery, nothing⟩
      rw [keptTags, sameTags] at delivery
      have attempted : pass.attempts = attemptsOf events := by
        rw [attempts, journal, grown, attemptsOf_append, silent, List.nil_append]
      refine ⟨fun violates => absurd applicable violates, fun _ noUpdates noTags => ?_,
        fun _ _ => ⟨left, attempted ▸ delivery, nothing⟩⟩
      have changes := something noUpdates
      rw [← sameTags, ← keptTags, Reconciler.tagMutations_eq_nil_iff, changes] at noTags
      cases noTags

/-- An update sends exactly what a comparison with the refreshed state finds.  Hence a
second update to the same desired state sends nothing if the refresh shows that
state. -/
theorem sends_diff (goal : pass.goal = .reconcile desired)
    (known : pass.reconciler.catalog.get? adapter.resourceType = some schema)
    (refreshes : pass.Refreshes id observed) :
    (∃ diff, diffAgainst desired.attributes
        ⟨observed.attributes, some pass.before.desired.attributes⟩ schema = .ok diff ∧
      pass.SendsDiff desired id observed diff) ∧
    (pass.before.desired = desired → observed.Shows adapter schema id desired →
      pass.attempts = [] ∧ pass.outcome = .converged) := by
  rcases sendsDiff_of_refreshes goal known refreshes with ⟨diff, differs, sends⟩
  refine ⟨⟨diff, differs, sends⟩, fun again shows => ?_⟩
  rw [again, diffAgainst_applied_iff.2 shows.attributes] at differs
  cases differs
  have noTags : adapter.tagMutations id desired.tags observed.tags = [] := by
    have same := shows.tags
    rw [Adapter.tagMutations]
    cases place : adapter.tagResource id with
    | none => rfl
    | some resource =>
        apply TagDelta.mutations_eq_nil_iff.2
        exact TagDelta.between_isEmpty_iff.2 (same (by simp [place]))
  have ended := sends.unchanged rfl rfl noTags
  exact ⟨ended.1, ended.2.1⟩

end Pass

namespace Simulation.Server

/-- The server that is known when the simulation begins. -/
def known : Record :=
  .imported ⟨["z1", "s1"], by decide, by decide⟩

/-- The server gets more cores, a password and another tag.  The remote is busy at
first. -/
def upgrades : Pass World adapter :=
  .ofEnded reconciler adapter known (.reconcile (wanted 4 "secret" "blue"))
    (world [("Describe", [found 2 "ready", found 4 "ready", found 4 "ready"]),
      ("DescribeResourceTags", [tagged "owner" "red", tagged "team" "blue"]),
      ("Modify", [busy, accepted, accepted]),
      ("TagResources", [accepted]), ("UnTagResources", [accepted])])
    (by decide +kernel)

/-- What the refresh of the server returns. -/
def refreshed : ObservedState where
  attributes := .ofList [("zone", .string "z1"), ("cores", .int 2)]
  status := some "ready"
  tags := .ofList [("owner", "red")]

theorem upgraded_server_sends_diff :
    upgrades.attempts.map (fun attempt => attempt.2.isNone) =
      [false, true, true, true, true] ∧
    (∃ diff, diffAgainst (wanted 4 "secret" "blue").attributes
        ⟨refreshed.attributes, some upgrades.before.desired.attributes⟩ schema = .ok diff ∧
      upgrades.SendsDiff (wanted 4 "secret" "blue") ⟨["z1", "s1"], by decide, by decide⟩
        refreshed diff) ∧
    (upgrades.before.desired = wanted 4 "secret" "blue" →
      refreshed.Shows adapter schema ⟨["z1", "s1"], by decide, by decide⟩
        (wanted 4 "secret" "blue") →
      upgrades.attempts = [] ∧ upgrades.outcome = .converged) := by
  have refreshes : upgrades.Refreshes ⟨["z1", "s1"], by decide, by decide⟩ refreshed :=
    ⟨by decide +kernel, by decide +kernel, rfl⟩
  exact ⟨by decide +kernel, Pass.sends_diff rfl (by decide +kernel) refreshes⟩

end Simulation.Server

end ControlLoop
