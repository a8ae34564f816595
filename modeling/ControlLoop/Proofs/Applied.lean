import ControlLoop.Proofs.Update

/-!
# What a record takes for applied

The desired state in a record is what comparisons take for applied, and for a field that
reads never return it is all they know.  An update writes it there when its requests have
been accepted, before the wait that would confirm them.  So when that wait fails, the
record holds values that nothing has confirmed, and the next pass with the same desired
state does not send them again.

Main statement: `Pass.relists_iff`, which says for which updates this does no harm.
-/

namespace ControlLoop

/-- Whether an event is an attempt to update the resource. -/
def Event.isUpdate : Event → Bool
  | .called .update _ _ => true
  | _ => false

/-- An attempt to update the resource has been made. -/
def Session.Updated {World : Type} (session : Session World) : Prop :=
  session.journal.any Event.isUpdate = true

theorem Session.not_updated_fresh {World : Type} (world : World) :
    ¬(Session.fresh world).Updated := by
  intro made
  cases made

theorem Session.Updated.of_adds {World : Type} {session final : Session World}
    {kind : Event → Prop} (made : final.Updated) (adds : Session.Adds kind session final)
    (others : ∀ event, kind event → event.isUpdate = false) : session.Updated := by
  rcases adds with ⟨events, grown, areKind⟩
  rcases List.any_eq_true.1 made with ⟨event, member, isUpdate⟩
  rw [grown] at member
  rcases List.mem_append.1 member with new | old
  · rw [others event (areKind event new)] at isUpdate
    cases isUpdate
  · exact List.any_eq_true.2 ⟨event, old, isUpdate⟩

namespace Stage

/-- Only the `sendUpdates` stage makes updates. -/
theorem isUpdate_of_mayNote {stage : Stage} {event : Event}
    (elsewhere : ∀ desired id updates, stage ≠ .sendUpdates desired id updates)
    (may : stage.MayNote event) : event.isUpdate = false := by
  cases event with
  | called purpose request answer =>
      have made := purpose?_of_mayNote may
      cases stage with
      | sendUpdates desired id updates => exact absurd rfl (elsewhere desired id updates)
      | _ => cases made <;> rfl
  | _ => rfl

/-- The stages from which a pass makes no update. -/
def isPastUpdates : Stage → Bool
  | .create _ => true
  | .finish _ _ => true
  | .tagAndObserve _ _ => true
  | .observe _ _ => true
  | .ended _ => true
  | _ => false

end Stage

/-- What a pass towards a desired state knows at a stage: until it sends updates none has
been made, and once one has been made the record holds the desired state. -/
def Standing.Applies {World : Type} (standing : Standing World) (desired : DesiredState) :
    Prop :=
  match standing.stage with
  | .reconcile given => given = desired ∧ ¬standing.session.Updated
  | .create _ => ¬standing.session.Updated
  | .update _ given _ => given = desired ∧ ¬standing.session.Updated
  | .compareAndSend _ given _ => given = desired ∧ ¬standing.session.Updated
  | .sendUpdates given _ _ => given = desired ∧ ¬standing.session.Updated
  | .finish _ _ => standing.session.Updated → standing.record.desired = desired
  | .tagAndObserve _ _ => standing.session.Updated → standing.record.desired = desired
  | .observe _ _ => standing.session.Updated → standing.record.desired = desired
  | .delete => ¬standing.session.Updated
  | .finishDelete _ => ¬standing.session.Updated
  | .ended outcome => ∀ error, outcome = .failed .update (.poll error) →
      standing.session.Updated → standing.record.desired = desired

namespace Reconciler

variable {World : Type} {reconciler : Reconciler World} {adapter : Adapter}
variable {session final : Session World} {record begun : Record} {stage : Stage}
variable {desired : DesiredState}

theorem isPastUpdates_of_step {standing next : Standing World}
    (past : standing.stage.isPastUpdates = true ∧ ¬standing.session.Updated)
    (step : reconciler.Step adapter standing next) :
    next.stage.isPastUpdates = true ∧ ¬next.session.Updated := by
  rcases past with ⟨past, unmade⟩
  have elsewhere (desired : DesiredState) (id : Identifier) (updates : List FieldUpdate) :
      standing.stage ≠ .sendUpdates desired id updates := by
    intro same
    rw [same] at past
    cases past
  constructor
  · cases step <;> first | rfl | cases past
  · intro made
    exact unmade (made.of_adds step.adds fun _ => Stage.isUpdate_of_mayNote elsewhere)

theorem not_updated_of_runFrom {after : Record} {outcome : Outcome}
    (past : stage.isPastUpdates = true) (unmade : ¬session.Updated)
    (ran : reconciler.runFrom adapter record stage session =
      some ((after, outcome), final)) : ¬final.Updated :=
  (invariant_of_runFrom (fun _ _ => isPastUpdates_of_step) ran ⟨past, unmade⟩).2

theorem error_of_failing {phase : Phase} {error other : PassError} {given : Phase}
    (outcome : (reconciler.failing session record phase error).2 = .failed given other) :
    error = other := by
  rcases reconciler.failing_cases session record phase error with
    ⟨-, ended, -⟩ | ⟨-, -, ended, -⟩ | ⟨-, -, ended, -⟩
  all_goals
    rw [ended] at outcome
    cases outcome
  rfl

/-- A wait that fails after an update leaves the desired state in the record. -/
theorem desired_of_fails {phase : Phase} {error : PollError}
    (applies : (⟨stage, record, session⟩ : Standing World).Applies desired)
    (fails : reconciler.Fails adapter session record stage phase (.poll error) begun final)
    (made : final.Updated) : begun.desired = desired := by
  have before (elsewhere : ∀ desired id updates,
      stage ≠ .sendUpdates desired id updates) : session.Updated :=
    made.of_adds fails.adds fun _ => Stage.isUpdate_of_mayNote elsewhere
  -- a request that fails is no wait that fails, so `sendUpdates` is not among the cases
  cases fails with
  | await waits entered _ =>
      cases stage with
      | finish id awaited => exact (moved_unchanged entered).2.1.trans (applies (before nofun))
      | finishDelete id => exact absurd (before nofun) applies
      | _ => cases waits
  | createAnswer _ _ _ => exact absurd (before nofun) applies
  | applyTags _ => exact applies (before nofun)
  | readBack entered _ => exact (moved_unchanged entered).2.1.trans (applies (before nofun))
  | refresh _ _ _ _ _ => exact absurd (before nofun) applies.2

theorem applies_of_step {standing next : Standing World} (applies : standing.Applies desired)
    (step : reconciler.Step adapter standing next) : next.Applies desired := by
  have before (elsewhere : ∀ desired id updates,
      standing.stage ≠ .sendUpdates desired id updates) (made : next.session.Updated) :
      standing.session.Updated :=
    made.of_adds step.adds fun _ => Stage.isUpdate_of_mayNote elsewhere
  cases step with
  | declined declines =>
      intro error outcome
      cases declines <;> cases outcome
  | @failed _ record begun session final phase error fails =>
      intro polled outcome made
      cases error_of_failing outcome
      have unchanged := reconciler.failing_unchanged final begun phase (.poll polled)
      exact unchanged.2.1.trans (desired_of_fails applies fails made)
  | begins _ _ => exact applies.2
  | resumes _ _ => exact fun made => absurd made applies.2
  | updates _ _ => exact applies
  | created _ _ _ => exact fun made => absurd (before nofun made) applies
  | reached entered _ =>
      exact fun made => (moved_unchanged entered).2.1.trans (applies (before nofun made))
  | tagged _ => exact fun made => applies (before nofun made)
  | observed _ _ _ => exact nofun
  | refreshed _ _ _ _ _ => exact ⟨applies.1, fun made => applies.2 (before nofun made)⟩
  | gone _ _ _ _ _ _ => exact fun made => applies.2 (before nofun made)
  | unchanged _ _ _ _ _ => exact nofun
  | differs _ _ _ _ => exact applies
  | sentNone _ _ => exact fun _ => applies.1
  | sent _ _ _ => exact fun _ => applies.1
  | unknown _ => exact nofun
  | resumesDelete _ _ => exact applies
  | deleting _ _ _ _ _ => exact fun made => applies (before nofun made)
  | deleted _ _ _ => exact nofun

end Reconciler

/-- Fields that can be changed in place, and that reads never return. -/
def ResourceSchema.IsSecret (schema : ResourceSchema) (name : String) : Prop :=
  ∃ field, schema.field? name = some field ∧ field.writeOnly = true ∧
    field.classification = .mutable

namespace Pass

variable {World : Type} {adapter : Adapter} {pass : Pass World adapter}
variable {desired : DesiredState} {schema : ResourceSchema}

/-- A pass that makes an update has refreshed the resource before. -/
theorem refreshes_of_updated (goal : pass.goal = .reconcile desired)
    (made : pass.final.Updated) : ∃ id observed, pass.Refreshes id observed := by
  have ran := pass.ranFrom
  rw [goal] at ran
  rcases Reconciler.goesOn_of_reconcile ran with ⟨next, step, ran⟩
  cases step with
  | declined _ => cases (Prod.mk.inj (Option.some.inj ran)).2 ▸ made
  | failed fails =>
      cases fails with
      | await waits _ _ => cases waits
  | begins _ _ =>
      have unmade := Session.not_updated_fresh pass.world
      exact absurd made (Reconciler.not_updated_of_runFrom rfl unmade ran)
  | resumes _ _ =>
      have unmade := Session.not_updated_fresh pass.world
      exact absurd made (Reconciler.not_updated_of_runFrom rfl unmade ran)
  | @updates _ schema id _ _ accepts _ =>
      -- only a refresh that finds the resource leads to `sendUpdates`
      have addressed := (Reconciler.checkedId_eq_ok_some_iff.1 accepts.readable).1
      rcases Reconciler.goesOn_of_update ran with ⟨next, step, ran⟩
      have unmade : ¬next.session.Updated := by
        intro made
        have before := made.of_adds step.adds fun _ => Stage.isUpdate_of_mayNote nofun
        exact Session.not_updated_fresh pass.world before
      cases step with
      | declined _ => exact absurd made (Reconciler.not_updated_of_runFrom rfl unmade ran)
      | failed _ => exact absurd made (Reconciler.not_updated_of_runFrom rfl unmade ran)
      | gone _ _ _ _ _ _ => exact absurd made (Reconciler.not_updated_of_runFrom rfl unmade ran)
      | @refreshed _ _ _ _ _ _ _ observed _ middle _ _ _ _ read =>
          rcases pass.reconciler.called_of_read_ok adapter id read with ⟨answer, answered⟩
          refine ⟨id, observed, addressed, ?_, ?_⟩
          · have noted := Reconciler.mem_journal_of_runFrom ran answered
            exact List.any_eq_true.2 ⟨_, noted, rfl⟩
          · rw [read]
            rfl

/-- An update whose wait fails leaves the desired state in the record, as if it had been
applied.  So of the fields that reads never return, those that the update listed are
listed again by every later comparison exactly when it listed none of them. -/
theorem relists_iff {error : PollError} (goal : pass.goal = .reconcile desired)
    (known : pass.reconciler.catalog.get? adapter.resourceType = some schema)
    (made : pass.final.Updated) (fails : pass.outcome = .failed .update (.poll error)) :
    ∃ id observed diff, pass.Refreshes id observed ∧
      diffAgainst desired.attributes
        ⟨observed.attributes, some pass.before.desired.attributes⟩ schema = .ok diff ∧
      pass.SendsDiff desired id observed diff ∧
      ((∀ name ∈ diff.updatedFields, schema.IsSecret name → ∀ later relisted,
          diffAgainst desired.attributes
            ⟨later, some pass.after.desired.attributes⟩ schema = .ok relisted →
          name ∈ relisted.updatedFields) ↔
        ∀ name ∈ diff.updatedFields, ¬schema.IsSecret name) := by
  rcases refreshes_of_updated goal made with ⟨id, observed, refreshes⟩
  rcases sendsDiff_of_refreshes goal known refreshes with ⟨diff, differs, sends⟩
  have applied : pass.after.desired = desired := by
    have ran := pass.ranFrom
    rw [goal] at ran
    have begins : (⟨.reconcile desired, pass.before, .fresh pass.world⟩ :
        Standing World).Applies desired := ⟨rfl, Session.not_updated_fresh pass.world⟩
    have ended := Reconciler.invariant_of_runFrom (fun _ _ => Reconciler.applies_of_step) ran
      begins
    exact ended error fails made
  refine ⟨id, observed, diff, refreshes, differs, sends, ?_, ?_⟩
  · rintro relists name listed ⟨field, declared, hidden, isMutable⟩
    rcases diffAgainst_eq_ok ⟨observed.attributes, some pass.after.desired.attributes⟩ differs
      with ⟨relisted, compared⟩
    have again := relists name listed ⟨field, declared, hidden, isMutable⟩ _ _ compared
    rw [applied] at compared
    rcases FieldDiff.readable_of_mem_applied compared again with ⟨other, same, readable⟩
    cases same.symm.trans declared
    cases hidden.symm.trans readable
  · intro noSecret name listed isSecret
    exact absurd isSecret (noSecret name listed)

end Pass

namespace Simulation.Server

/-- The server gets a password, but breaks. -/
def rotates : Pass World adapter :=
  .ofEnded reconciler adapter known (.reconcile (wanted 2 "secret" "blue"))
    (world [("Describe", [found 2 "ready", found 2 "broken"]),
      ("DescribeResourceTags", [tagged "team" "blue"]), ("Modify", [accepted])])
    (by decide +kernel)

/-- The server has recovered, and could take the password. -/
def forgets : Pass World adapter :=
  .ofEnded reconciler adapter rotates.after (.reconcile (wanted 2 "secret" "blue"))
    (world [("Describe", [found 2 "ready", found 2 "ready", found 2 "ready"]),
      ("DescribeResourceTags", [tagged "team" "blue", tagged "team" "blue"]),
      ("Modify", [accepted])])
    (by decide +kernel)

theorem broken_server_relists_iff :
    rotates.outcome = .failed .update (.poll (.terminalFailure "await update" "broken")) ∧
    ∃ id observed diff, rotates.Refreshes id observed ∧
      diffAgainst (wanted 2 "secret" "blue").attributes
        ⟨observed.attributes, some rotates.before.desired.attributes⟩ schema = .ok diff ∧
      rotates.SendsDiff (wanted 2 "secret" "blue") id observed diff ∧
      ((∀ name ∈ diff.updatedFields, schema.IsSecret name → ∀ later relisted,
          diffAgainst (wanted 2 "secret" "blue").attributes
            ⟨later, some rotates.after.desired.attributes⟩ schema = .ok relisted →
          name ∈ relisted.updatedFields) ↔
        ∀ name ∈ diff.updatedFields, ¬schema.IsSecret name) := by
  have fails : rotates.outcome =
      .failed .update (.poll (.terminalFailure "await update" "broken")) := by
    decide +kernel
  have made : rotates.final.Updated := by
    rw [Session.Updated]
    decide +kernel
  exact ⟨fails, Pass.relists_iff rfl (by decide +kernel) made fails⟩

/-- The fields that a comparison with the last refresh of a record lists. -/
def listed (record : Record) (applied : DesiredState) : Option (List String) :=
  (diffAgainst (wanted 2 "secret" "blue").attributes
    ⟨record.lastObserved.attributes, some applied.attributes⟩ schema).toOption.map
      FieldDiff.updatedFields

/-- The password was sent but never confirmed.  It is not listed again, and the next pass
converges without sending it. -/
theorem broken_server_forgets_password :
    schema.IsSecret "password" ∧
    rotates.goal = .reconcile (wanted 2 "secret" "blue") ∧ rotates.final.Updated ∧
    rotates.outcome = .failed .update (.poll (.terminalFailure "await update" "broken")) ∧
    listed rotates.after rotates.before.desired = some ["password"] ∧
    listed rotates.after rotates.after.desired = some [] ∧
    forgets.before = rotates.after ∧ forgets.goal = .reconcile (wanted 2 "secret" "blue") ∧
    forgets.outcome = .converged ∧ forgets.attempts = [] := by
  have isSecret : schema.IsSecret "password" :=
    ⟨{ classification := .mutable, writeOnly := true }, by decide +kernel, rfl, rfl⟩
  have made : rotates.final.Updated := by
    rw [Session.Updated]
    decide +kernel
  exact ⟨isSecret, rfl, made, by decide +kernel, by decide +kernel, by decide +kernel,
    Pass.before_ofEnded _, rfl, by decide +kernel, by decide +kernel⟩

end Simulation.Server

end ControlLoop
