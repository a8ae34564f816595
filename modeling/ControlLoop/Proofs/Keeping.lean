import ControlLoop.Proofs.History
import ControlLoop.Proofs.Identifier
import ControlLoop.Proofs.Trace
import ControlLoop.Simulation.Disk

/-!
# Keeping identifiers

The identifier of a record is learned from the answer to a create request, and is given
up for two reasons only: a refresh reports that the resource is gone, or a delete comes
to its end.  These three kinds of `Milestone` can be read off the journal of a pass and
its outcome, and they tell at every moment which identifier the record holds
(`Milestone.held`).  An identifier is only ever stored where none is held
(`Milestone.Exclusive`), so no resource is created twice and none is lost.

Main statement: `History.keeps_identifiers`.
-/

namespace ControlLoop

/-- What can happen to the identifier of a record. -/
inductive Milestone where
  /-- A create request was answered, and the identifier stored. -/
  | stored (id : Identifier)
  /-- A refresh reported that the resource is gone. -/
  | absent
  /-- A delete came to its end. -/
  | deleted
  deriving DecidableEq

namespace Milestone

/-- The identifier that a record holds after a milestone. -/
def identifier? : Milestone → Option Identifier
  | .stored id => some id
  | .absent => none
  | .deleted => none

theorem identifier?_eq_none_iff {milestone : Milestone} :
    milestone.identifier? = none ↔ milestone = .absent ∨ milestone = .deleted := by
  cases milestone <;> simp [identifier?]

/-- The identifier that a record holds after milestones, latest first, if it held
`start` before. -/
def held (start : Option Identifier) : List Milestone → Option Identifier
  | [] => start
  | milestone :: _ => milestone.identifier?

/-- An identifier is only stored where none is held. -/
def Exclusive (start : Option Identifier) (milestones : List Milestone) : Prop :=
  ∀ newer id older, milestones = newer ++ .stored id :: older → held start older = none

variable {start : Option Identifier} {milestone : Milestone}
variable {milestones newer older : List Milestone}

theorem held_append : held start (newer ++ older) = held (held start older) newer := by
  cases newer <;> rfl

theorem exclusive_nil : Exclusive start [] := by
  intro newer id older split
  simp at split

theorem exclusive_cons :
    Exclusive start (milestone :: milestones) ↔
      (milestone.identifier? ≠ none → held start milestones = none) ∧
        Exclusive start milestones := by
  constructor
  · intro exclusive
    constructor
    · intro stores
      cases milestone with
      | stored id => exact exclusive [] id milestones rfl
      | absent => exact absurd rfl stores
      | deleted => exact absurd rfl stores
    · intro newer id older split
      exact exclusive (milestone :: newer) id older (congrArg (milestone :: ·) split)
  · rintro ⟨first, exclusive⟩ newer id older split
    cases newer with
    | nil =>
        cases split
        exact first nofun
    | cons other newer => exact exclusive newer id older (List.cons.inj split).2

theorem exclusive_append :
    Exclusive start (newer ++ older) ↔
      Exclusive (held start older) newer ∧ Exclusive start older := by
  induction newer with
  | nil => simp [exclusive_nil]
  | cons milestone newer ih =>
      rw [List.cons_append, exclusive_cons, exclusive_cons, held_append, ih, and_assoc]

/-- Two stored identifiers are parted by a milestone that gives one up. -/
theorem Exclusive.parted {later earlier : Identifier}
    (exclusive : Exclusive start (newer ++ .stored later :: (milestones ++
      .stored earlier :: older))) :
    ∃ milestone ∈ milestones, milestone = .absent ∨ milestone = .deleted := by
  have free := exclusive newer later _ rfl
  cases milestones with
  | nil => cases free
  | cons milestone milestones =>
      exact ⟨milestone, List.mem_cons_self, identifier?_eq_none_iff.1 free⟩

/-- An identifier that is held is given up before anything else happens to it. -/
theorem Exclusive.given_up (exclusive : Exclusive start milestones)
    (held_start : start ≠ none) (differs : held start milestones ≠ start) :
    ∃ milestone ∈ milestones, milestone = .absent ∨ milestone = .deleted := by
  rcases List.eq_nil_or_concat milestones with rfl | ⟨later, first, rfl⟩
  · exact absurd rfl differs
  · refine ⟨first, by simp, ?_⟩
    cases first with
    | stored id =>
        rw [List.concat_eq_append] at exclusive
        exact absurd (exclusive later id [] rfl) held_start
    | absent => exact .inl rfl
    | deleted => exact .inr rfl

end Milestone

namespace Reconciler

variable {World : Type} (reconciler : Reconciler World) (adapter : Adapter)

/-! ## Milestones of a journal -/

/-- Whether the result of a refresh call says that the resource is gone. -/
def isAbsence : Except CallError Json → Bool
  | .ok answer =>
      match adapter.readState answer with
      | .ok none => true
      | _ => false
  | .error error => error.isNotFound

/-- Whether the answer to one attempt of a refresh says that the resource is gone. -/
def reportsAbsence : Except RemoteError Json → Bool
  | .ok answer => isAbsence adapter (.ok answer)
  | .error failure =>
      failure.isNotFound &&
        reconciler.executor.classifier.classify failure .existenceCheck == .nonRetryable

/-- The milestone that an event of a pass stands for. -/
def milestone? (goal : Goal) : Event → Option Milestone
  | .called .create request (.ok answer) =>
      match goal with
      | .reconcile desired =>
          (createdId adapter desired request answer).toOption.map .stored
      | .delete => none
  | .called .refresh _ answer =>
      if reconciler.reportsAbsence adapter answer then some .absent else none
  | _ => none

/-- The milestones of a session, latest first. -/
def milestones (goal : Goal) (session : Session World) : List Milestone :=
  session.journal.filterMap (reconciler.milestone? adapter goal)

variable {session final : Session World} (goal : Goal)

theorem milestones_of_adds {kind : Event → Prop} (adds : Session.Adds kind session final)
    (others : ∀ event, kind event → reconciler.milestone? adapter goal event = none) :
    reconciler.milestones adapter goal final =
      reconciler.milestones adapter goal session := by
  rcases adds with ⟨events, grown, areKind⟩
  rw [milestones, milestones, grown, List.filterMap_append,
    List.filterMap_eq_nil_iff.2 fun event member => others event (areKind event member),
    List.nil_append]

theorem milestones_of_cons {event : Event} {earlier : List Event}
    (journal : final.journal = event :: earlier) :
    reconciler.milestones adapter goal final =
      (reconciler.milestone? adapter goal event).toList ++
        earlier.filterMap (reconciler.milestone? adapter goal) := by
  rw [milestones, journal, List.filterMap_cons]
  cases reconciler.milestone? adapter goal event <;> rfl

theorem milestones_of_journal_eq (journal : final.journal = session.journal) :
    reconciler.milestones adapter goal final = reconciler.milestones adapter goal session :=
  congrArg (List.filterMap _) journal

theorem milestone?_of_isTagRead {event : Event} (isRead : event.IsTagRead) :
    reconciler.milestone? adapter goal event = none := by
  cases event with
  | called purpose request answer => exact absurd isRead id
  | _ => rfl

/-- The only event by which an identifier is given up is a report of absence. -/
theorem refresh_of_milestone? {event : Event} {milestone : Milestone}
    (isMilestone : reconciler.milestone? adapter goal event = some milestone)
    (loses : milestone.identifier? = none) :
    ∃ request answer, event = .called .refresh request answer ∧
      reconciler.reportsAbsence adapter answer = true := by
  cases event with
  | called purpose request answer =>
      cases purpose with
      | refresh =>
          rw [milestone?] at isMilestone
          split at isMilestone
          next reports => exact ⟨request, answer, rfl, reports⟩
          next => cases isMilestone
      | create =>
          rcases answer with failure | answer
          · cases isMilestone
          · cases goal with
            | delete => cases isMilestone
            | reconcile desired =>
                rcases Option.map_eq_some_iff.1 isMilestone with ⟨id, -, rfl⟩
                cases loses
      | _ => cases isMilestone
  | _ => cases isMilestone

/-- Only creates and refreshes are milestones. -/
theorem milestone?_of_mayNote {stage : Stage} {event : Event}
    (notCreate : ∀ desired, stage ≠ .create desired)
    (notUpdate : ∀ schema desired id, stage ≠ .update schema desired id)
    (may : stage.MayNote event) : reconciler.milestone? adapter goal event = none := by
  cases event with
  | called purpose request answer =>
      have made := Stage.purpose?_of_mayNote may
      cases stage with
      | create desired => exact absurd rfl (notCreate desired)
      | update schema desired id => exact absurd rfl (notUpdate schema desired id)
      | _ => cases made <;> rfl
  | _ => rfl

/-- An attempt that is to be repeated is no milestone. -/
theorem milestone?_of_undecided {purpose : Purpose} {request : Request} {event : Event}
    (undecided :
      reconciler.executor.IsUndecided purpose.kind (.called purpose request) event) :
    reconciler.milestone? adapter goal event = none := by
  rcases undecided with ⟨duration, completed, rfl⟩ | ⟨failure, retryable, rfl⟩
  · rfl
  · cases purpose with
    | refresh =>
        have kept : reconciler.executor.classifier.classify failure .existenceCheck =
          .retryable := retryable
        simp [milestone?, reportsAbsence, kept]
    | _ => rfl

/-- The milestone of a call is that of the attempt that decided it, if one did. -/
theorem milestones_of_call {purpose : Purpose} {request : Request}
    {result : Except CallError Json}
    (called : reconciler.call purpose request session = some (result, final)) :
    (∃ answer, reconciler.executor.decision? request.action purpose.kind answer =
        some result ∧
      reconciler.milestones adapter goal final =
        (reconciler.milestone? adapter goal (.called purpose request answer)).toList ++
          reconciler.milestones adapter goal session) ∨
      (∃ error, result = .error error ∧ error.isNotFound = false) ∧
        reconciler.milestones adapter goal final =
          reconciler.milestones adapter goal session := by
  rcases reconciler.call_concludes called with ⟨last, undecided, concludes⟩
  have same := reconciler.milestones_of_adds adapter goal undecided fun _ =>
    reconciler.milestone?_of_undecided adapter goal
  rcases concludes with ⟨answer, decides, journal⟩ | ⟨journal, error, rfl, givesUp⟩
  · refine .inl ⟨answer, decides, ?_⟩
    rw [milestones_of_cons _ _ _ journal, ← milestones, same]
  · refine .inr ⟨⟨error, rfl, ?_⟩, ?_⟩
    · cases error <;> simp_all [CallError.isTimeout, CallError.isCancelled,
        CallError.isNotFound]
    · rw [milestones_of_journal_eq _ _ _ journal, same]

section

variable {desired : DesiredState}

/-- A create that is answered with an identifier stores it. -/
theorem milestones_of_created {answer : Json} {id : Identifier}
    (called : reconciler.call .create (adapter.createRequest desired) session =
      some (.ok answer, final))
    (created : createdId adapter desired (adapter.createRequest desired) answer = .ok id) :
    reconciler.milestones adapter (.reconcile desired) final =
      .stored id :: reconciler.milestones adapter (.reconcile desired) session := by
  rcases reconciler.milestones_of_call adapter _ called with
    ⟨given, decides, grown⟩ | ⟨⟨error, failed, -⟩, -⟩
  · rw [Executor.decision?_eq_ok_iff] at decides
    rw [grown, decides, milestone?, created]
    rfl
  · cases failed

/-- A create that is not answered with an identifier stores none. -/
theorem milestones_of_uncreated {result : Except CallError Json}
    (called : reconciler.call .create (adapter.createRequest desired) session =
      some (result, final))
    (uncreated : ∀ answer, result = .ok answer → ∃ error,
      createdId adapter desired (adapter.createRequest desired) answer = .error error) :
    reconciler.milestones adapter (.reconcile desired) final =
      reconciler.milestones adapter (.reconcile desired) session := by
  rcases reconciler.milestones_of_call adapter _ called with
    ⟨given, decides, grown⟩ | ⟨-, same⟩
  · rw [grown]
    rcases given with failure | answer
    · rfl
    · rcases uncreated answer (Option.some.inj decides).symm with ⟨error, refused⟩
      rw [milestone?, refused]
      rfl
  · exact same

end

theorem reportsAbsence_of_decision {operation : String} {answer : Except RemoteError Json}
    {result : Except CallError Json}
    (decides : reconciler.executor.decision? operation .existenceCheck answer =
      some result) :
    reconciler.reportsAbsence adapter answer = isAbsence adapter result := by
  rcases answer with failure | answer
  · rw [Executor.decision?] at decides
    rw [reportsAbsence]
    cases verdict : reconciler.executor.classifier.classify failure .existenceCheck <;>
      rw [verdict] at decides <;> cases decides <;> simp [isAbsence, CallError.isNotFound]
  · cases decides
    rfl

theorem milestones_of_refreshCall {request : Request} {result : Except CallError Json}
    (called : reconciler.call .refresh request session = some (result, final)) :
    reconciler.milestones adapter goal final =
      (if isAbsence adapter result then [.absent] else []) ++
        reconciler.milestones adapter goal session := by
  rcases reconciler.milestones_of_call adapter goal called with
    ⟨given, decides, grown⟩ | ⟨⟨error, rfl, found⟩, same⟩
  · -- the attempt that decided the call also tells what the milestone is
    rw [grown, milestone?, reconciler.reportsAbsence_of_decision adapter decides]
    cases isAbsence adapter result <;> rfl
  · rw [same, isAbsence, found]
    rfl

/-- A refresh is a milestone exactly when it finds that the resource is gone. -/
theorem milestones_of_refresh {id : Identifier}
    {result : Except PassError (Option ObservedState)}
    (refreshed : reconciler.read adapter id .refresh session = some (result, final)) :
    result = .ok none ∧ reconciler.milestones adapter goal final =
        .absent :: reconciler.milestones adapter goal session ∨
      result ≠ .ok none ∧ reconciler.milestones adapter goal final =
        reconciler.milestones adapter goal session := by
  cases reconciler.reads_of_read adapter id refreshed with
  | failed called found =>
      have grown := reconciler.milestones_of_refreshCall adapter goal called
      rw [isAbsence, found] at grown
      exact .inr ⟨nofun, grown⟩
  | missing called missing =>
      have grown := reconciler.milestones_of_refreshCall adapter goal called
      rw [isAbsence, missing] at grown
      exact .inl ⟨rfl, grown⟩
  | unclear called parsed =>
      have grown := reconciler.milestones_of_refreshCall adapter goal called
      simp only [isAbsence, parsed] at grown
      exact .inr ⟨nofun, grown⟩
  | gone called parsed =>
      have grown := reconciler.milestones_of_refreshCall adapter goal called
      simp only [isAbsence, parsed] at grown
      exact .inl ⟨rfl, grown⟩
  | untagged called parsed _ =>
      have grown := reconciler.milestones_of_refreshCall adapter goal called
      simp only [isAbsence, parsed] at grown
      exact .inr ⟨nofun, grown⟩
  | @tagged _ _ resource tags _ _ called parsed _ described =>
      have grown := reconciler.milestones_of_refreshCall adapter goal called
      simp only [isAbsence, parsed] at grown
      have same := reconciler.milestones_of_adds adapter goal
        (reconciler.executor.describeTags_notes _ _ _ _ _ described)
        fun _ => reconciler.milestone?_of_isTagRead adapter goal
      refine .inr ⟨?_, same.trans grown⟩
      cases tags <;> exact nofun

end Reconciler

/-! ## Milestones along a pass -/

/-- The milestone that the end of a pass is. -/
def Outcome.milestones : Outcome → List Milestone
  | .deleted => [.deleted]
  | _ => []

namespace Stage

/-- The milestone that a stage is. -/
def milestones : Stage → List Milestone
  | .ended outcome => outcome.milestones
  | _ => []

/-- A stage works for the goal of its pass, and creates only what is not known. -/
def Serves (goal : Goal) (record : Record) : Stage → Prop
  | .reconcile desired => goal = .reconcile desired
  | .update _ desired _ => goal = .reconcile desired
  | .create desired => goal = .reconcile desired ∧ record.localId = none
  | _ => True

/-- Only the `create` stage makes requests to create. -/
theorem create_of_mayNote {stage : Stage} {request : Request}
    {answer : Except RemoteError Json}
    (may : stage.MayNote (.called .create request answer)) :
    ∃ desired, stage = .create desired := by
  have made := purpose?_of_mayNote may
  cases stage with
  | create desired => exact ⟨desired, rfl⟩
  | _ => cases made

theorem milestones_of_rank_pos {stage : Stage} (goesOn : 0 < stage.rank) :
    stage.milestones = [] := by
  cases stage with
  | ended outcome => cases goesOn
  | _ => rfl

end Stage

namespace Reconciler

section

variable {World : Type} {reconciler : Reconciler World} {adapter : Adapter}
variable {session final : Session World} {record begun : Record} {stage : Stage}

theorem Declines.milestones {outcome : Outcome} {left : Record}
    (declines : reconciler.Declines adapter session record stage outcome left) :
    outcome.milestones = [] := by
  cases declines <;> rfl

theorem milestones_of_failing (session : Session World) (record : Record) (phase : Phase)
    (error : PassError) :
    (reconciler.failing session record phase error).2.milestones = [] := by
  rcases reconciler.failing_cases session record phase error with
    ⟨-, outcome, -⟩ | ⟨-, -, outcome, -⟩ | ⟨-, -, outcome, -⟩
  all_goals
    rw [outcome]
    rfl

theorem serves_of_step {goal : Goal} {standing next : Standing World}
    (serves : standing.stage.Serves goal standing.record)
    (step : reconciler.Step adapter standing next) :
    next.stage.Serves goal next.record := by
  cases step with
  | begins accepts _ => exact ⟨serves, checkedId_eq_ok_none_iff.1 accepts.readable⟩
  | updates _ _ => exact serves
  | gone _ _ _ _ _ _ => exact ⟨serves, rfl⟩
  | _ => trivial

end

variable {World : Type} (reconciler : Reconciler World) (adapter : Adapter) (goal : Goal)

/-- The milestones until a pass stands somewhere, latest first. -/
def milestonesUntil (standing : Standing World) : List Milestone :=
  standing.stage.milestones ++ reconciler.milestones adapter goal standing.session

/-- The milestones of a pass tell which identifier the record holds, if it held `start`
before, and none was stored over another one. -/
def Follows (start : Option Identifier) (standing : Standing World) : Prop :=
  standing.record.localId =
      Milestone.held start (reconciler.milestonesUntil adapter goal standing) ∧
    Milestone.Exclusive start (reconciler.milestonesUntil adapter goal standing)

variable {reconciler adapter goal}
variable {session final : Session World} {record begun : Record} {stage : Stage}
variable {start : Option Identifier} {standing next : Standing World}

/-- A step without a milestone keeps the identifier. -/
theorem Follows.of_same (follows : reconciler.Follows adapter goal start standing)
    (same : reconciler.milestonesUntil adapter goal next =
      reconciler.milestonesUntil adapter goal standing)
    (kept : next.record.localId = standing.record.localId) :
    reconciler.Follows adapter goal start next := by
  rw [Follows, same, kept]
  exact follows

/-- A step with a milestone leaves the identifier that the milestone tells. -/
theorem Follows.of_cons (milestone : Milestone)
    (follows : reconciler.Follows adapter goal start standing)
    (grown : reconciler.milestonesUntil adapter goal next =
      milestone :: reconciler.milestonesUntil adapter goal standing)
    (told : next.record.localId = milestone.identifier?)
    (free : milestone.identifier? ≠ none → standing.record.localId = none) :
    reconciler.Follows adapter goal start next := by
  rw [Follows, grown, Milestone.exclusive_cons, ← follows.1]
  exact ⟨told, free, follows.2⟩

/-- A failed step is no milestone. -/
theorem Fails.milestones {phase : Phase} {error : PassError}
    (serves : stage.Serves goal record)
    (fails : reconciler.Fails adapter session record stage phase error begun final) :
    reconciler.milestones adapter goal final =
      reconciler.milestones adapter goal session := by
  have quietly (notCreate : ∀ desired, stage ≠ .create desired)
      (notUpdate : ∀ schema desired id, stage ≠ .update schema desired id) :=
    reconciler.milestones_of_adds adapter goal fails.adds fun _ =>
      reconciler.milestone?_of_mayNote adapter goal notCreate notUpdate
  cases fails with
  | create _ called =>
      rcases serves with ⟨rfl, -⟩
      exact reconciler.milestones_of_uncreated adapter called nofun
  | createAnswer _ called refused =>
      rcases serves with ⟨rfl, -⟩
      refine reconciler.milestones_of_uncreated adapter called fun answer same => ?_
      cases same
      exact ⟨_, refused⟩
  | refresh _ _ _ _ read =>
      rcases reconciler.milestones_of_refresh adapter goal read with ⟨found, -⟩ | ⟨-, same⟩
      · cases found
      · exact same
  | await waits _ _ =>
      apply quietly
      · rintro desired rfl
        cases waits
      · rintro schema desired id rfl
        cases waits
  | _ => exact quietly nofun nofun

/-- Every step keeps `Follows`. -/
theorem follows_of_step (serves : standing.stage.Serves goal standing.record)
    (follows : reconciler.Follows adapter goal start standing)
    (step : reconciler.Step adapter standing next) :
    reconciler.Follows adapter goal start next := by
  have quietly (notCreate : ∀ desired, standing.stage ≠ .create desired)
      (notUpdate : ∀ schema desired id, standing.stage ≠ .update schema desired id) :=
    reconciler.milestones_of_adds adapter goal step.adds fun _ =>
      reconciler.milestone?_of_mayNote adapter goal notCreate notUpdate
  cases step with
  | declined declines =>
      refine follows.of_same ?_ declines.untouched.localId
      rw [milestonesUntil, milestonesUntil,
        Stage.milestones_of_rank_pos declines.rank_pos]
      exact congrArg (· ++ _) declines.milestones
  | @failed _ record begun session final phase error fails =>
      have unchanged := reconciler.failing_unchanged final begun phase error
      refine follows.of_same ?_ (unchanged.1.trans fails.untouched.localId)
      rw [milestonesUntil, milestonesUntil, fails.milestones serves,
        Stage.milestones_of_rank_pos fails.rank_pos]
      exact congrArg (· ++ _) (milestones_of_failing final begun phase error)
  | created _ called created =>
      rcases serves with ⟨rfl, unknown⟩
      exact follows.of_cons (.stored _)
        (reconciler.milestones_of_created adapter called created) rfl fun _ => unknown
  | refreshed compares _ _ observing read =>
      rcases reconciler.milestones_of_refresh adapter goal read with ⟨lost, -⟩ | ⟨-, same⟩
      · cases lost
      · refine follows.of_same same ?_
        exact (moved_unchanged observing).1.trans (moved_unchanged compares).1
  | gone _ _ _ _ read _ =>
      rcases reconciler.milestones_of_refresh adapter goal read with ⟨-, lost⟩ | ⟨found, -⟩
      · exact follows.of_cons .absent lost rfl fun stores => absurd rfl stores
      · exact absurd rfl found
  | unknown _ => exact follows.of_cons .deleted rfl rfl fun stores => absurd rfl stores
  | deleted _ awaited _ =>
      refine follows.of_cons .deleted ?_ rfl fun stores => absurd rfl stores
      exact congrArg (.deleted :: ·) (quietly nofun nofun)
  | begins _ _ => exact follows
  | resumes _ _ => exact follows
  | updates _ _ => exact follows
  | resumesDelete _ _ => exact follows
  | tagged _ => exact follows.of_same (quietly nofun nofun) rfl
  | reached entered _ =>
      exact follows.of_same (quietly nofun nofun) (moved_unchanged entered).1
  | differs entered _ _ _ =>
      exact follows.of_same (quietly nofun nofun) (moved_unchanged entered).1
  | sentNone entered _ =>
      exact follows.of_same (quietly nofun nofun) (moved_unchanged entered).1
  | sent _ entered _ =>
      exact follows.of_same (quietly nofun nofun) (moved_unchanged entered).1
  | deleting _ _ entered _ _ =>
      exact follows.of_same (quietly nofun nofun) (moved_unchanged entered).1
  | observed entered _ settles =>
      refine follows.of_same (quietly nofun nofun) ?_
      exact (moved_unchanged settles).1.trans (moved_unchanged entered).1
  | unchanged entered _ _ _ settles =>
      refine follows.of_same (quietly nofun nofun) ?_
      exact (moved_unchanged settles).1.trans (moved_unchanged entered).1

/-! ## Requests along a pass -/

/-- Every request to create was made where the record held no identifier. -/
theorem createdFrom_of_steps {opening : Standing World}
    (unbegun : opening.session.journal = [])
    (serves : opening.stage.Serves goal opening.record)
    (steps : Relation.ReflTransGen (reconciler.Step adapter) opening standing)
    {newer older : List Event} {request : Request} {answer : Except RemoteError Json}
    (split : standing.session.journal = newer ++ .called .create request answer :: older) :
    ∃ origin, Relation.ReflTransGen (reconciler.Step adapter) opening origin ∧
      Relation.ReflTransGen (reconciler.Step adapter) origin standing ∧
      origin.record.localId = none ∧
      ∃ attempts, older = attempts ++ origin.session.journal ∧
        ∀ event ∈ attempts, event.IsCall .create := by
  induction steps generalizing newer with
  | refl => simp [unbegun] at split
  | @tail standing next steps step ih =>
      rcases step.adds with ⟨events, grown, may⟩
      rw [grown] at split
      rcases List.append_eq_append_iff.1 split with
        ⟨newest, -, earlier⟩ | ⟨attempts, isNew, isOlder⟩
      · -- the request was made before this step
        rcases ih earlier with ⟨origin, leads, continues, found⟩
        exact ⟨origin, leads, continues.tail step, found⟩
      · cases attempts with
        | nil =>
            rcases @ih [] isOlder.symm with ⟨origin, leads, continues, found⟩
            exact ⟨origin, leads, continues.tail step, found⟩
        | cons made attempts =>
            -- the request was made in this step, after other attempts at it
            rw [List.cons_append, List.cons.injEq] at isOlder
            rcases isOlder with ⟨rfl, rfl⟩
            rw [isNew] at may
            rcases Stage.create_of_mayNote
              (may _ (List.mem_append_right newer List.mem_cons_self)) with
              ⟨desired, isCreate⟩
            have served := invariant_of_steps (fun _ _ => serves_of_step) steps serves
            rw [isCreate] at served may
            refine ⟨standing, steps, .single step, served.2, attempts, rfl, ?_⟩
            intro event member
            exact may event (by simp [member])

end Reconciler

namespace Pass

variable {World : Type} {adapter : Adapter} (pass : Pass World adapter)

/-- A refresh of the pass reported that the resource is gone. -/
def ReportsAbsence : Prop :=
  ∃ request answer, .called .refresh request answer ∈ pass.journal ∧
    pass.reconciler.reportsAbsence adapter answer = true

/-- The milestones of the pass, latest first. -/
def milestones : List Milestone :=
  pass.outcome.milestones ++
    pass.journal.filterMap (pass.reconciler.milestone? adapter pass.goal)

/-- How a pass treats the identifier of its record. -/
structure KeepsIdentifier : Prop where
  /-- Nowhere on its way does the record lose the identifier it began with, unless the
  resource is gone. -/
  given_up : ∀ standing, pass.Visits standing → pass.before.localId ≠ none →
    standing.record.localId ≠ pass.before.localId →
    pass.ReportsAbsence ∨ pass.outcome = .deleted
  /-- A request to create, with its retries, is made where the record has no
  identifier. -/
  created : ∀ newer request answer older,
    pass.journal = newer ++ .called .create request answer :: older →
    ∃ standing, pass.Visits standing ∧ standing.record.localId = none ∧
      ∃ attempts, older = attempts ++ standing.session.journal ∧
        ∀ event ∈ attempts, event.IsCall .create
  /-- A create or an update that is under way is not repeated. -/
  resumes : ∀ desired, pass.goal = .reconcile desired → pass.before.localId ≠ none →
    pass.before.state ∈
      [.creating, .polling .create, .createFailed, .polling .update] →
    ∀ event ∈ pass.journal, ¬event.IsWrite
  /-- A delete that is under way is not repeated. -/
  resumesDelete : pass.goal = .delete → pass.before.state = .polling .delete →
    ∀ event ∈ pass.journal, ¬event.IsWrite

variable {pass} {standing : Standing World}

theorem serves_opening : pass.opening.stage.Serves pass.goal pass.opening.record := by
  rw [opening]
  cases pass.goal <;> trivial

theorem follows_of_visits (visits : pass.Visits standing) :
    pass.reconciler.Follows adapter pass.goal pass.before.localId standing := by
  have begins : pass.reconciler.Follows adapter pass.goal pass.before.localId
      pass.opening := by
    rw [opening]
    cases pass.goal <;> exact ⟨rfl, Milestone.exclusive_nil⟩
  have kept (standing next : Standing World)
      (known : standing.stage.Serves pass.goal standing.record ∧
        pass.reconciler.Follows adapter pass.goal pass.before.localId standing)
      (step : pass.reconciler.Step adapter standing next) :
      next.stage.Serves pass.goal next.record ∧
        pass.reconciler.Follows adapter pass.goal pass.before.localId next :=
    ⟨Reconciler.serves_of_step known.1 step,
      Reconciler.follows_of_step known.1 known.2 step⟩
  exact (Reconciler.invariant_of_steps kept visits.1 ⟨serves_opening, begins⟩).2

/-- What has been noted somewhere on the way is noted at the end. -/
theorem mem_journal_of_visits (visits : pass.Visits standing) {event : Event}
    (member : event ∈ standing.session.journal) : event ∈ pass.journal := by
  have kept (earlier later : Standing World) (member : event ∈ earlier.session.journal)
      (step : pass.reconciler.Step adapter earlier later) :
      event ∈ later.session.journal :=
    step.mem_journal member
  exact Reconciler.invariant_of_steps kept visits.2 member

/-- A pass that has ended somewhere has ended there. -/
theorem outcome_of_visits {outcome : Outcome} (visits : pass.Visits standing)
    (ended : standing.stage = .ended outcome) : pass.outcome = outcome := by
  rcases visits.2.cases_head with same | ⟨next, step, -⟩
  · rw [same, ending] at ended
    exact Stage.ended.inj ended
  · have lower := step.rank_lt
    rw [ended] at lower
    cases lower

/-- An absence or a delete among the milestones is what it stands for. -/
theorem reported_of_mem_milestones {milestone : Milestone}
    (visits : pass.Visits standing)
    (member : milestone ∈
      pass.reconciler.milestonesUntil adapter pass.goal standing)
    (loses : milestone.identifier? = none) :
    pass.ReportsAbsence ∨ pass.outcome = .deleted := by
  rcases List.mem_append.1 member with isEnd | noted
  · refine .inr ?_
    cases stage : standing.stage with
    | ended outcome =>
        rw [pass.outcome_of_visits visits stage]
        cases outcome <;> simp [stage, Stage.milestones, Outcome.milestones] at isEnd ⊢
    | _ => simp [stage, Stage.milestones] at isEnd
  · refine .inl ?_
    rcases List.mem_filterMap.1 noted with ⟨event, member, isMilestone⟩
    rcases pass.reconciler.refresh_of_milestone? adapter pass.goal isMilestone loses with
      ⟨request, answer, rfl, reports⟩
    exact ⟨request, answer, pass.mem_journal_of_visits visits member, reports⟩

theorem keepsIdentifier : pass.KeepsIdentifier where
  given_up := by
    intro standing visits known differs
    rcases follows_of_visits visits with ⟨holds, exclusive⟩
    rw [holds] at differs
    rcases exclusive.given_up known differs with ⟨milestone, member, loses⟩
    exact reported_of_mem_milestones visits member (Milestone.identifier?_eq_none_iff.2 loses)
  created := by
    intro newer request answer older split
    rcases Reconciler.createdFrom_of_steps rfl serves_opening pass.steps split with
      ⟨origin, leads, continues, found⟩
    exact ⟨origin, ⟨leads, continues⟩, found⟩
  resumes := by
    intro desired goal known state
    have resumes : pass.before.state.resumes? ≠ none := by
      simp only [List.mem_cons, List.not_mem_nil, or_false] at state
      rcases state with state | state | state | state <;> rw [state] <;> decide
    have rests : pass.goal.stage.Rests pass.before := by
      rw [goal]
      exact ⟨known, resumes⟩
    exact fun event member => (pass.isFollowUp_of_rests rests event member).not_isWrite
  resumesDelete := by
    intro goal state
    have rests : pass.goal.stage.Rests pass.before := by
      rw [goal]
      exact state
    exact fun event member => (pass.isFollowUp_of_rests rests event member).not_isWrite

end Pass

/-! ## Histories -/

section

variable {World : Type} {adapter : Adapter} {start record : Record}
variable {passes : List (Pass World adapter)}

/-- The milestones of passes, latest first. -/
def milestonesOf (passes : List (Pass World adapter)) : List Milestone :=
  passes.flatMap Pass.milestones

/-- The milestones of a history tell which identifier the record holds. -/
theorem History.follows (history : History start passes record) :
    record.localId = Milestone.held start.localId (milestonesOf passes) ∧
      Milestone.Exclusive start.localId (milestonesOf passes) := by
  induction history with
  | nil => exact ⟨rfl, Milestone.exclusive_nil⟩
  | @cons passes record earlier pass continues ih =>
      rcases ih with ⟨held, exclusive⟩
      have ending : pass.Visits pass.ending := ⟨pass.steps, .refl⟩
      rcases Pass.follows_of_visits ending with ⟨heldAfter, exclusiveAfter⟩
      rw [continues, held] at heldAfter exclusiveAfter
      rw [milestonesOf, List.flatMap_cons, ← milestonesOf, Milestone.held_append,
        Milestone.exclusive_append]
      exact ⟨heldAfter, exclusiveAfter, exclusive⟩

/-- No resource is created twice, and none is lost: every pass of a history keeps the
identifier of its record, the milestones tell which identifier the record holds, and
between two identifiers that were stored there is a report that the resource is gone, or
the end of a delete. -/
theorem History.keeps_identifiers (history : History start passes record) :
    (∀ pass ∈ passes, pass.KeepsIdentifier) ∧
      record.localId = Milestone.held start.localId (milestonesOf passes) ∧
      ∀ newer later between earlier older,
        milestonesOf passes =
          newer ++ .stored later :: (between ++ .stored earlier :: older) →
        ∃ milestone ∈ between, milestone = .absent ∨ milestone = .deleted := by
  rcases history.follows with ⟨held, exclusive⟩
  refine ⟨fun pass _ => Pass.keepsIdentifier, held, ?_⟩
  intro newer later between earlier older split
  rw [split] at exclusive
  exact exclusive.parted

end

namespace Simulation.Disk

/-- The answer to a request that creates another disk. -/
def recreated : Entry where
  answer := .ok (.object [("InstanceId", .string "d2")])

/-- A disk is created, and the wait for it is cancelled. -/
def interrupts : Pass World adapter :=
  .ofEnded reconciler adapter {} (.reconcile (sized 1))
    (world [("Create", [created]),
      ("Describe", [{ found 1 "pending" with cancels := true }])])
    (by decide +kernel)

/-- The wait is resumed, and the disk is there. -/
def obtains : Pass World adapter :=
  .ofEnded reconciler adapter interrupts.after (.reconcile (sized 1))
    (world [("Describe", [found 1 "ready", found 1 "ready"])])
    (by decide +kernel)

/-- The disk is lost, and another one is created. -/
def replaces : Pass World adapter :=
  .ofEnded reconciler adapter obtains.after (.reconcile (sized 1))
    (world [("Create", [recreated]),
      ("Describe", [missing, found 1 "ready", found 1 "ready"])])
    (by decide +kernel)

/-- The other disk is deleted. -/
def discards : Pass World adapter :=
  .ofEnded reconciler adapter replaces.after .delete
    (world [("Delete", [accepted]), ("Describe", [missing])])
    (by decide +kernel)

theorem replaced_disk_keeps_identifiers :
    (milestonesOf [discards, replaces, obtains, interrupts]).map
        (fun milestone => milestone.identifier?.map Identifier.encoded) =
      [none, some "d2", none, some "d1"] ∧
    (∀ pass ∈ [discards, replaces, obtains, interrupts], pass.KeepsIdentifier) ∧
      discards.after.localId =
        Milestone.held none (milestonesOf [discards, replaces, obtains, interrupts]) ∧
      ∀ newer later between earlier older,
        milestonesOf [discards, replaces, obtains, interrupts] =
          newer ++ .stored later :: (between ++ .stored earlier :: older) →
        ∃ milestone ∈ between, milestone = .absent ∨ milestone = .deleted := by
  have history : History {} [discards, replaces, obtains, interrupts] discards.after :=
    .cons (.cons (.cons (.cons .nil interrupts rfl) obtains rfl) replaces rfl) discards rfl
  exact ⟨by decide +kernel, History.keeps_identifiers history⟩

end Simulation.Disk

end ControlLoop
