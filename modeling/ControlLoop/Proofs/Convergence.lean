import ControlLoop.Proofs.Agreement
import ControlLoop.Proofs.History
import ControlLoop.Proofs.Identifier
import ControlLoop.Proofs.Trace
import ControlLoop.Simulation.Disk

/-!
# What convergence tells

A pass converges in two ways.  Either it compares what a refresh returned with the
desired state and finds nothing to change; then the record agrees with the desired
state.  Or it waits for a change and takes over what a read-back returns, without
comparing; then the record agrees only if the answer happens to show the desired
state.

A pass that resumes a wait works for the desired state of the record and not for the
one that it was given.

Main statements: `Pass.agrees_iff` and `Pass.desired_eq_iff`.
-/

namespace ControlLoop

/-- A call that reads a resource back. -/
def Event.IsReadBack : Event → Prop
  | .called purpose _ _ => purpose = .readBack
  | _ => False

/-- No resource has been read back. -/
def Session.Unread {World : Type} (session : Session World) : Prop :=
  ∀ event ∈ session.journal, ¬event.IsReadBack

/-- The desired state of the record would change nothing of what it observed. -/
structure Record.Agrees (record : Record) (adapter : Adapter) (schema : ResourceSchema)
    (id : Identifier) : Prop where
  attributes :
    diffAgainst record.desired.attributes
      ⟨record.lastObserved.attributes, some record.desired.attributes⟩ schema =
        .ok ⟨[], []⟩
  tags : adapter.tagResource id ≠ none →
    (TagDelta.between record.desired.tags record.tags).isEmpty = true

/-- A read shows a desired state: the attributes and, for a resource that has them,
the tags. -/
structure ObservedState.Shows (observed : ObservedState) (adapter : Adapter)
    (schema : ResourceSchema) (id : Identifier) (desired : DesiredState) : Prop where
  attributes : observed.attributes.Show schema desired.attributes
  tags : adapter.tagResource id ≠ none → observed.tags = desired.tags

/-- A record that took over a read agrees exactly when the read shows its desired
state. -/
theorem Record.agrees_iff_shows {record : Record} {adapter : Adapter}
    {schema : ResourceSchema} {id : Identifier} {observed : ObservedState}
    (attributes : record.lastObserved = observed) (tags : record.tags = observed.tags) :
    record.Agrees adapter schema id ↔
      observed.Shows adapter schema id record.desired := by
  constructor
  · rintro ⟨agreeing, same⟩
    rw [diffAgainst_applied_iff, attributes] at agreeing
    rw [TagDelta.between_isEmpty_iff, tags] at same
    exact ⟨agreeing, same⟩
  · rintro ⟨shown, same⟩
    rw [← attributes] at shown
    rw [← tags, ← TagDelta.between_isEmpty_iff] at same
    exact ⟨diffAgainst_applied_iff.2 shown, same⟩

namespace Session

variable {World : Type} {session final : Session World} {kind : Event → Prop}

theorem Unread.of_adds (unread : session.Unread) (adds : Adds kind session final)
    (others : ∀ event, kind event → ¬event.IsReadBack) : final.Unread :=
  adds.forall_mem unread others

end Session

/-- Only the `observe` stage reads back. -/
theorem Stage.not_isReadBack_of_mayNote {stage : Stage} {event : Event}
    (elsewhere : ∀ id phase, stage ≠ .observe id phase) (may : stage.MayNote event) :
    ¬event.IsReadBack := by
  intro isReadBack
  cases event with
  | called purpose request answer =>
      cases isReadBack
      have made := purpose?_of_mayNote may
      cases stage with
      | observe id phase => exact elsewhere id phase rfl
      | _ => cases made
  | _ => cases isReadBack

namespace Reconciler

variable {World : Type} (reconciler : Reconciler World) (adapter : Adapter)

/-! ## The two ways to converge -/

/-- How a record that has converged is known: it was compared and agrees, or it took
over what the read-back of the resource returned. -/
def Knows (schema : ResourceSchema) (session : Session World) (record : Record) : Prop :=
  ∃ id, record.localId = some id ∧
    (session.Unread ∧ record.Agrees adapter schema id ∨
      ¬session.Unread ∧ ∃ earlier observed,
        reconciler.read adapter id .readBack earlier =
          some (.ok (some observed), session) ∧
        record.lastObserved = observed ∧ record.tags = observed.tags)

/-- What holds at every stage on the way to convergence: nothing has been read back,
and the stage works on the resource of the record. -/
def Tracks (schema : ResourceSchema) (session : Session World) (record : Record) :
    Stage → Prop
  | .reconcile _ => session.Unread
  | .create _ => session.Unread
  | .update other _ id => session.Unread ∧ record.localId = some id ∧ other = schema
  | .compareAndSend other _ id =>
      session.Unread ∧ record.localId = some id ∧ other = schema
  | .sendUpdates _ id _ => session.Unread ∧ record.localId = some id
  | .finish id _ => session.Unread ∧ record.localId = some id
  | .tagAndObserve id _ => session.Unread ∧ record.localId = some id
  | .observe id _ => session.Unread ∧ record.localId = some id
  | .delete => True
  | .finishDelete _ => True
  | .ended outcome => outcome = .converged → reconciler.Knows adapter schema session record

variable {reconciler adapter}
variable {session final : Session World} {record after : Record}
variable {schema : ResourceSchema} {desired : DesiredState}

/-- A pass that does not know the schema does not converge. -/
theorem known_of_reconcile
    (ran : reconciler.reconcile adapter record desired session =
      some ((after, .converged), final)) :
    ∃ schema, reconciler.catalog.get? adapter.resourceType = some schema := by
  rw [reconcile] at ran
  split at ran
  · cases ran
  · cases known : reconciler.catalog.get? adapter.resourceType with
    | none =>
        simp only [known] at ran
        cases ran
    | some schema => exact ⟨schema, rfl⟩

/-- A comparison that finds nothing to change leaves a record that agrees. -/
theorem agrees_of_unchanged {id : Identifier} {compared settled : Record}
    {diff : FieldDiff} (differs : fieldDiff compared desired schema = .ok diff)
    (nothing : diff.isEmpty = true)
    (noTags : (tagDelta adapter id desired.tags compared).isEmpty = true)
    (settles :
      reconciler.moved session { compared with desired } .steady = .ok settled) :
    settled.Agrees adapter schema id := by
  rcases moved_unchanged settles with ⟨-, sameDesired, sameObserved, sameTags⟩
  rw [FieldDiff.eq_of_isEmpty nothing] at differs
  constructor
  · rw [sameDesired, sameObserved]
    exact diffAgainst_applied_iff.2 (show_of_diffAgainst differs)
  · intro tagged
    rw [sameDesired, sameTags]
    cases resource : adapter.tagResource id with
    | none => exact absurd resource tagged
    | some resource =>
        rw [tagDelta] at noTags
        simpa [*] using noTags

theorem tracks_of_step (known : reconciler.catalog.get? adapter.resourceType = some schema)
    {standing next : Standing World}
    (tracks : reconciler.Tracks adapter schema standing.session standing.record
      standing.stage)
    (step : reconciler.Step adapter standing next) :
    reconciler.Tracks adapter schema next.session next.record next.stage := by
  have unread (elsewhere : ∀ id phase, standing.stage ≠ .observe id phase)
      (before : standing.session.Unread) : next.session.Unread :=
    before.of_adds step.adds fun _ => Stage.not_isReadBack_of_mayNote elsewhere
  cases step with
  | declined declines =>
      intro converged
      exact absurd converged declines.ne_converged
  | failed _ =>
      intro converged
      exact absurd converged (failing_ne_converged _ _ _ _ _)
  | begins _ _ => exact tracks
  | resumes accepts _ =>
      exact ⟨tracks, (checkedId_eq_ok_some_iff.1 accepts.readable).1⟩
  | updates accepts _ =>
      have same := accepts.known.symm.trans known
      exact ⟨tracks, (checkedId_eq_ok_some_iff.1 accepts.readable).1, Option.some.inj same⟩
  | created _ _ _ => exact ⟨unread nofun tracks, rfl⟩
  | reached entered _ =>
      exact ⟨unread nofun tracks.1, (moved_unchanged entered).1.trans tracks.2⟩
  | tagged _ => exact ⟨unread nofun tracks.1, tracks.2⟩
  | @observed id phase record begun settled state session final entered read settles =>
      rcases moved_unchanged settles with ⟨sameId, -, sameObserved, sameTags⟩
      have addressed : begun.localId = some id := (moved_unchanged entered).1.trans tracks.2
      rcases reconciler.called_of_read_ok adapter id read with ⟨answer, answered⟩
      intro _
      refine ⟨id, sameId.trans addressed, .inr ⟨?_, session, state, read, ?_, ?_⟩⟩
      · intro unread
        exact unread _ answered rfl
      · exact sameObserved
      · exact sameTags
  | refreshed entered _ _ observing _ =>
      have addressed := (moved_unchanged observing).1.trans
        ((moved_unchanged entered).1.trans tracks.2.1)
      exact ⟨unread nofun tracks.1, addressed, tracks.2.2⟩
  | gone _ _ _ _ _ _ => exact unread nofun tracks.1
  | unchanged entered differs nothing noTags settles =>
      rcases tracks with ⟨noReads, addressed, rfl⟩
      have settledId := (moved_unchanged settles).1.trans
        ((moved_unchanged entered).1.trans addressed)
      intro _
      exact ⟨_, settledId, .inl ⟨noReads,
        agrees_of_unchanged differs nothing noTags settles⟩⟩
  | differs entered _ _ _ =>
      exact ⟨tracks.1, (moved_unchanged entered).1.trans tracks.2.1⟩
  | sentNone entered _ =>
      exact ⟨unread nofun tracks.1, (moved_unchanged entered).1.trans tracks.2⟩
  | sent _ entered _ =>
      exact ⟨unread nofun tracks.1, (moved_unchanged entered).1.trans tracks.2⟩
  | unknown _ => exact nofun
  | resumesDelete _ _ => trivial
  | deleting _ _ _ _ _ => trivial
  | deleted _ _ _ => exact nofun

/-! ## The desired state of a pass -/

/-- What holds at every stage of a pass that works for a desired state. -/
def Aims (desired : DesiredState) (record : Record) : Stage → Prop
  | .reconcile given =>
      desired = if record.localId = none ∨ record.state.resumes? = none then given
        else record.desired
  | .create given => given = desired
  | .update _ given _ => given = desired
  | .compareAndSend _ given _ => given = desired
  | .sendUpdates given _ _ => given = desired
  | .finish _ _ => record.desired = desired
  | .tagAndObserve _ _ => record.desired = desired
  | .observe _ _ => record.desired = desired
  | .delete => True
  | .finishDelete _ => True
  | .ended outcome => outcome = .converged → record.desired = desired

theorem aims_of_step {standing next : Standing World}
    (aims : Aims desired standing.record standing.stage)
    (step : reconciler.Step adapter standing next) :
    Aims desired next.record next.stage := by
  cases step with
  | declined declines =>
      intro converged
      exact absurd converged declines.ne_converged
  | failed _ =>
      intro converged
      exact absurd converged (failing_ne_converged _ _ _ _ _)
  | begins accepts _ =>
      have unknown := checkedId_eq_ok_none_iff.1 accepts.readable
      rw [Aims, if_pos (.inl unknown)] at aims
      exact aims.symm
  | resumes accepts resumption =>
      have known := (checkedId_eq_ok_some_iff.1 accepts.readable).1
      rw [Aims, if_neg (by simp [known, resumption])] at aims
      exact aims.symm
  | updates _ resumption =>
      rw [Aims, if_pos (.inr resumption)] at aims
      exact aims.symm
  | created _ _ _ => exact aims
  | reached entered _ => exact (moved_unchanged entered).2.1.trans aims
  | tagged _ => exact aims
  | observed entered _ settles =>
      have sameDesired := (moved_unchanged settles).2.1
      exact fun _ => sameDesired.trans ((moved_unchanged entered).2.1.trans aims)
  | refreshed _ _ _ _ _ => exact aims
  | gone _ _ _ _ _ _ => exact aims
  | unchanged _ _ _ _ settles =>
      intro _
      exact (moved_unchanged settles).2.1.trans aims
  | differs _ _ _ _ => exact aims
  | sentNone _ _ => exact aims
  | sent _ _ _ => exact aims
  | unknown _ => exact nofun
  | resumesDelete _ _ => trivial
  | deleting _ _ _ _ _ => trivial
  | deleted _ _ _ => exact nofun

end Reconciler

namespace Pass

variable {World : Type} {adapter : Adapter} {desired : DesiredState}

/-- A reconcile that converged knows the resource and the schema of its type.  The
record agrees with its desired state exactly when nothing was read back, or what was
read back shows that state. -/
theorem agrees_iff (pass : Pass World adapter) (goal : pass.goal = .reconcile desired)
    (converged : pass.outcome = .converged) :
    ∃ id schema, pass.after.localId = some id ∧
      pass.reconciler.catalog.get? adapter.resourceType = some schema ∧
      (pass.after.Agrees adapter schema id ↔
        pass.final.Unread ∨
        ∃ earlier observed,
          pass.reconciler.read adapter id .readBack earlier =
            some (.ok (some observed), pass.final) ∧
          pass.after.lastObserved = observed ∧ pass.after.tags = observed.tags ∧
          observed.Shows adapter schema id pass.after.desired) := by
  have ran := pass.ranFrom
  rw [goal, converged] at ran
  rcases Reconciler.known_of_reconcile ran with ⟨schema, known⟩
  have begins : pass.reconciler.Tracks adapter schema (.fresh pass.world) pass.before
      (.reconcile desired) := nofun
  have ends := Reconciler.invariant_of_runFrom
    (fun standing next => Reconciler.tracks_of_step known) ran begins
  rcases ends rfl with
    ⟨id, addressed, ⟨unread, agrees⟩ | ⟨read, earlier, observed, answer, same⟩⟩
  · exact ⟨id, schema, addressed, known, fun _ => .inl unread, fun _ => agrees⟩
  · refine ⟨id, schema, addressed, known, ?_, ?_⟩
    · intro agrees
      have shows := (Record.agrees_iff_shows same.1 same.2).1 agrees
      exact .inr ⟨earlier, observed, answer, same.1, same.2, shows⟩
    · rintro (unread | ⟨-, observed, -, sameState, sameTags, shows⟩)
      · exact absurd unread read
      · exact (Record.agrees_iff_shows sameState sameTags).2 shows

end Pass

namespace Simulation.Disk

/-- A disk of size 2 is wanted, but one of size 1 is delivered. -/
def delivers : Pass World adapter :=
  .ofEnded reconciler adapter {} (.reconcile (sized 2))
    (world [("Create", [created]), ("Describe", [found 1 "ready", found 1 "ready"])])
    (by decide +kernel)

theorem delivered_disk_agrees_iff :
    ∃ id schema, delivers.after.localId = some id ∧
      delivers.reconciler.catalog.get? adapter.resourceType = some schema ∧
      (delivers.after.Agrees adapter schema id ↔
        delivers.final.Unread ∨
        ∃ earlier observed,
          delivers.reconciler.read adapter id .readBack earlier =
            some (.ok (some observed), delivers.final) ∧
          delivers.after.lastObserved = observed ∧
          delivers.after.tags = observed.tags ∧
          observed.Shows adapter schema id delivers.after.desired) :=
  delivers.agrees_iff rfl (by decide +kernel)

/-- The pass converges although the size would still have to be changed. -/
theorem delivered_disk_differs :
    delivers.goal = .reconcile (sized 2) ∧ delivers.outcome = .converged ∧
      diffAgainst delivers.after.desired.attributes
        ⟨delivers.after.lastObserved.attributes, some delivers.after.desired.attributes⟩
        schema = .ok ⟨[⟨"size", some (.int 1), .int 2⟩], []⟩ :=
  ⟨rfl, by decide +kernel, by rfl⟩

end Simulation.Disk

namespace Pass

variable {World : Type} {adapter : Adapter} {desired : DesiredState}

/-- A reconcile that converged worked for the desired state that it was given unless
it resumed a wait for another one. -/
theorem desired_eq_iff (pass : Pass World adapter)
    (goal : pass.goal = .reconcile desired) (converged : pass.outcome = .converged) :
    pass.after.desired = desired ↔
      (pass.before.localId ≠ none → pass.before.state.resumes? ≠ none →
        pass.before.desired = desired) := by
  have ran := pass.ranFrom
  rw [goal, converged] at ran
  have ends := Reconciler.invariant_of_runFrom
    (fun standing next => Reconciler.aims_of_step) ran rfl
  rw [ends rfl]
  split
  next resumesNothing =>
    simp only [true_iff]
    intro addressed resumption
    exact absurd resumesNothing (not_or.2 ⟨addressed, resumption⟩)
  next resumes =>
    rcases not_or.1 resumes with ⟨addressed, resumption⟩
    exact ⟨fun same _ _ => same, fun same => same addressed resumption⟩

end Pass

namespace Simulation.Disk

/-- A disk of size 2 is created, and the wait for it is cancelled. -/
def isCancelled : Pass World adapter :=
  .ofEnded reconciler adapter {} (.reconcile (sized 2))
    (world [("Create", [created]),
      ("Describe", [{ found 2 "pending" with cancels := true }])])
    (by decide +kernel)

/-- Now a disk of size 3 is wanted, and could be had. -/
def resumes : Pass World adapter :=
  .ofEnded reconciler adapter isCancelled.after (.reconcile (sized 3))
    (world [("Set-size", [accepted]),
      ("Describe", [found 2 "ready", found 2 "ready", found 3 "ready", found 3 "ready"])])
    (by decide +kernel)

theorem resumed_disk_desired_eq_iff :
    resumes.after.desired = sized 3 ↔
      (resumes.before.localId ≠ none → resumes.before.state.resumes? ≠ none →
        resumes.before.desired = sized 3) :=
  resumes.desired_eq_iff rfl (by decide +kernel)

/-- The pass converges with the disk that was wanted before. -/
theorem resumed_disk_keeps_size :
    resumes.goal = .reconcile (sized 3) ∧ resumes.outcome = .converged ∧
      resumes.after.desired = sized 2 ∧ sized 2 ≠ sized 3 :=
  ⟨rfl, by decide +kernel, by decide +kernel, by decide +kernel⟩

end Simulation.Disk

end ControlLoop
