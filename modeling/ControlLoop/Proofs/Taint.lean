import ControlLoop.Proofs.Keeping
import ControlLoop.Proofs.Report
import ControlLoop.Proofs.Update

/-!
# Taint

A record is tainted by a remote failure that is judged to be fatal, and by nothing else.
Such a failure ends at once whatever it happens in, and is handed up through every layer:
the retries of a call, the read, the wait or the change of tags that the call is made for,
and the pass, which ends and taints its record.  None of the layers loses it, and none makes
one up.  `Run.Tells` says so of a run: its result is fatal exactly when it noted a fatal
failure.

Main statement: `Pass.taint_law`.
-/

namespace ControlLoop

/-- Whether a result is a failure that passes a test. -/
def failsBy {ε α : Type} (test : ε → Bool) : Except ε α → Bool
  | .ok _ => false
  | .error error => test error

/-- The kind of operation that a call of the tag service is. -/
def TagCall.kind : TagCall → OperationKind
  | .describe => .read
  | .replace _ => .write
  | .delete _ => .write

/-- Whether a call is made to see how far a change has come. -/
def Purpose.isPoll : Purpose → Bool
  | .poll _ => true
  | _ => false

/-- The failure that an event notes, with the kind of operation by which it is judged.  A
status read fails also when its answer cannot be understood. -/
def Event.failure? (adapter : Adapter) : Event → Option (OperationKind × RemoteError)
  | .called (.poll phase) _ answer =>
      (failureOf (answer.bind adapter.readStatus)).map (Prod.mk (Purpose.poll phase).kind)
  | .called purpose _ answer => (failureOf answer).map (Prod.mk purpose.kind)
  | .tagged _ call failure => failure.map (Prod.mk call.kind)
  | _ => none

/-- Whether a pass has ended because of a fatal failure. -/
def Outcome.isFatal : Outcome → Bool
  | .failed _ error => error.isFatal
  | _ => false

/-- Whether nothing is left of a pass because of a fatal failure. -/
def Stage.isFatal : Stage → Bool
  | .ended outcome => outcome.isFatal
  | _ => false

theorem Stage.not_isFatal_of_rank_pos {stage : Stage} (goesOn : 0 < stage.rank) :
    stage.isFatal = false := by
  cases stage with
  | ended outcome => cases goesOn
  | _ => rfl

namespace Executor

variable {World : Type} (executor : Executor World)

/-- Whether a failure of an operation is judged to be fatal. -/
def condemns (kind : OperationKind) (failure : RemoteError) : Bool :=
  executor.classifier.classify failure kind == .fatal

/-- Whether an event notes a failure that is judged to be fatal. -/
def isFatal (adapter : Adapter) (event : Event) : Bool :=
  (event.failure? adapter).any fun failure => executor.condemns failure.1 failure.2

end Executor

namespace Run

variable {World α β : Type}

/-- The result of a run tells whether anything fatal happened: something `known` before, or
an event that the run noted. -/
def Tells (run : Run World α) (fatal : Event → Bool) (known : Bool)
    (isFatal : α → Bool) : Prop :=
  ∀ session result final, run session = some (result, final) →
    ∃ events, final.journal = events ++ session.journal ∧
      isFatal result = (known || events.any fatal)

namespace Tells

variable {fatal : Event → Bool} {known : Bool} {isFatal : α → Bool}

theorem pure {answer : α} (told : isFatal answer = known) :
    (pure answer : Run World α).Tells fatal known isFatal := by
  intro session result final ran
  cases ran
  exact ⟨[], rfl, by simp [told]⟩

/-- What the first run tells is known to the next. -/
theorem bind {run : Run World α} {next : α → Run World β} {laterFatal : β → Bool}
    (first : run.Tells fatal known isFatal)
    (later : ∀ answer, (next answer).Tells fatal (isFatal answer) laterFatal) :
    (run >>= next).Tells fatal known laterFatal := by
  intro session result final ran
  rcases bind_eq_some_iff.1 ran with ⟨answer, middle, ranFirst, ranLater⟩
  obtain ⟨events, grown, told⟩ := first _ _ _ ranFirst
  obtain ⟨events', grown', told'⟩ := later _ _ _ _ ranLater
  refine ⟨events' ++ events, ?_, ?_⟩
  · rw [grown', grown, List.append_assoc]
  · rw [told', told, List.any_append, Bool.or_assoc, Bool.or_comm (events.any fatal)]

/-- A run that notes nothing fatal tells what was known before. -/
theorem of_notes {run : Run World α}
    (notes : run.Notes fun event => fatal event = false) :
    run.Tells fatal known fun _ => known := by
  intro session result final ran
  obtain ⟨events, grown, areQuiet⟩ := notes _ _ _ ran
  refine ⟨events, grown, ?_⟩
  have quiet : events.any fatal = false :=
    List.any_eq_false.2 fun event member => by simp [areQuiet event member]
  rw [quiet, Bool.or_false]

/-- A run that notes its answer tells whether that is fatal. -/
theorem of_notesAnswer {run : Run World α} {event : α → Event}
    (noting : run.NotesAnswer event)
    (judged : ∀ answer, fatal (event answer) = isFatal answer) :
    run.Tells fatal false isFatal := by
  intro session result final ran
  exact ⟨[event result], noting _ _ _ ran, by simp [judged]⟩

/-- The journal after a run holds a fatal event if it did before, or if the result is
fatal. -/
theorem any_journal {run : Run World α} {session final : Session World} {result : α}
    (tells : run.Tells fatal false isFatal) (ran : run session = some (result, final)) :
    final.journal.any fatal = (isFatal result || session.journal.any fatal) := by
  obtain ⟨events, grown, told⟩ := tells _ _ _ ran
  rw [grown, List.any_append, told, Bool.false_or]

end Tells

end Run

/-! ## Retries and waits -/

namespace Executor

variable {World α : Type} (executor : Executor World) (adapter : Adapter)

variable {executor adapter} in
/-- A fatal failure ends the retries, so a round that goes on has told nothing. -/
theorem retryAfter_tells {operation : String} {kind : OperationKind} {policy : RetryPolicy}
    {attempt : Run World (Except RemoteError α)} {started : Duration} {rounds attempts : Nat}
    (again : (executor.retryFrom operation kind policy attempt started rounds
      (attempts + 1)).Tells (executor.isFatal adapter) false (failsBy CallError.isFatal))
    (answer : Except RemoteError α) :
    (executor.retryAfter operation kind policy attempt started rounds attempts answer).Tells
      (executor.isFatal adapter) (failsBy (executor.condemns kind) answer)
      (failsBy CallError.isFatal) := by
  cases answer with
  | ok result => exact .pure rfl
  | error failure =>
      rw [failsBy, condemns, retryAfter]
      cases executor.classifier.classify failure kind with
      | nonRetryable => exact .pure rfl
      | fatal => exact .pure rfl
      | retryable =>
          apply Run.Tells.bind (.of_notes executor.environment.time_notes)
          intro now
          dsimp only
          split
          · exact .pure rfl
          · apply Run.Tells.bind
              (.of_notes (executor.environment.pauseFor_notes policy attempts))
            intro pause
            apply Run.Tells.bind
              (.of_notes (executor.environment.rest_notes (fun _ _ => rfl) _))
            intro completed
            cases completed with
            | true => exact again
            | false => exact .pure rfl

theorem retryFrom_tells (operation : String) (kind : OperationKind) (policy : RetryPolicy)
    {attempt : Run World (Except RemoteError α)} (started : Duration)
    (tells :
      attempt.Tells (executor.isFatal adapter) false (failsBy (executor.condemns kind)))
    (rounds attempts : Nat) :
    (executor.retryFrom operation kind policy attempt started rounds attempts).Tells
      (executor.isFatal adapter) false (failsBy CallError.isFatal) := by
  induction rounds generalizing attempts with
  | zero =>
      intro session result final ran
      cases ran
  | succ rounds ih =>
      rw [retryFrom_succ]
      apply Run.Tells.bind (.of_notes executor.environment.isCancelled_notes)
      intro cancelled
      cases cancelled with
      | true => exact .pure rfl
      | false => exact .bind tells (retryAfter_tells (ih (attempts + 1)))

theorem retry_tells (operation : String) (kind : OperationKind) (policy : RetryPolicy)
    {attempt : Run World (Except RemoteError α)}
    (tells :
      attempt.Tells (executor.isFatal adapter) false (failsBy (executor.condemns kind))) :
    (executor.retry operation kind policy attempt).Tells (executor.isFatal adapter) false
      (failsBy CallError.isFatal) :=
  .bind (.of_notes executor.environment.time_notes) fun started =>
    executor.retryFrom_tells adapter operation kind policy started tells executor.rounds 0

/-- A fatal read ends a wait fatally, and nothing else does. -/
theorem failsBy_statusOf (operation : String) (polls : Nat) (elapsed : Duration)
    (answer : Except CallError ObservedStatus) :
    failsBy PollError.isFatal (statusOf operation polls elapsed answer) =
      failsBy CallError.isFatal answer := by
  rcases answer with error | status
  · cases error with
    | nonRetryable name source =>
        rw [statusOf.eq_def]
        dsimp only
        split <;> rfl
    | _ => rfl
  · rfl

variable {executor adapter} in
theorem awaitAfter_tells {operation : String} {target : Target} {policy : PollPolicy}
    {read : Run World (Except RemoteError ObservedStatus)} {started : Duration}
    {rounds polls : Nat}
    (again : (executor.awaitFrom operation target policy read started rounds
      (polls + 1)).Tells (executor.isFatal adapter) false (failsBy PollError.isFatal))
    (answer : Except CallError ObservedStatus) :
    (executor.awaitAfter operation target policy read started rounds polls answer).Tells
      (executor.isFatal adapter) (failsBy CallError.isFatal answer)
      (failsBy PollError.isFatal) := by
  apply Run.Tells.bind (.of_notes executor.environment.time_notes)
  intro later
  dsimp only
  -- what the read told is what the status tells, also where it was not found
  rw [← failsBy_statusOf operation (polls + 1) (later - started)]
  cases statusOf operation (polls + 1) (later - started) answer with
  | error failure => exact .pure rfl
  | ok status =>
      dsimp only
      cases target.evaluate status with
      | reached => exact .pure rfl
      | failed status => exact .pure rfl
      | pending =>
          dsimp only
          split
          · exact .pure rfl
          · apply Run.Tells.bind
              (.of_notes (executor.environment.rest_notes (fun _ _ => rfl) _))
            intro completed
            cases completed with
            | true => exact again
            | false => exact .pure rfl

theorem awaitFrom_tells (operation : String) (target : Target) (policy : PollPolicy)
    {read : Run World (Except RemoteError ObservedStatus)} (started : Duration)
    (tells :
      read.Tells (executor.isFatal adapter) false (failsBy (executor.condemns .read)))
    (rounds polls : Nat) :
    (executor.awaitFrom operation target policy read started rounds polls).Tells
      (executor.isFatal adapter) false (failsBy PollError.isFatal) := by
  induction rounds generalizing polls with
  | zero =>
      intro session result final ran
      cases ran
  | succ rounds ih =>
      rw [awaitFrom_succ]
      apply Run.Tells.bind (.of_notes executor.environment.isCancelled_notes)
      intro cancelled
      cases cancelled with
      | true => exact .pure rfl
      | false =>
          apply Run.Tells.bind (.of_notes executor.environment.time_notes)
          intro now
          exact .bind (executor.retry_tells adapter _ _ _ tells)
            (awaitAfter_tells (ih (polls + 1)))

theorem await_tells (operation : String) (target : Target) (policy : PollPolicy)
    {read : Run World (Except RemoteError ObservedStatus)}
    (tells :
      read.Tells (executor.isFatal adapter) false (failsBy (executor.condemns .read))) :
    (executor.await operation target policy read).Tells (executor.isFatal adapter) false
      (failsBy PollError.isFatal) :=
  .bind (.of_notes executor.environment.time_notes) fun started =>
    executor.awaitFrom_tells adapter operation target policy started tells
      executor.rounds 0

/-! ## Tags -/

theorem callTags_tells (resource : TagResource) (call : TagCall)
    (action : World → Except RemoteError α × World) :
    (Environment.callTags resource call action).Tells (executor.isFatal adapter) false
      (failsBy (executor.condemns call.kind)) :=
  .of_notesAnswer (Environment.callTags_notesAnswer resource call action) fun answer => by
    cases answer <;> rfl

theorem describeTags_tells (resource : TagResource) (policy : RetryPolicy) :
    (executor.describeTags resource policy).Tells (executor.isFatal adapter) false
      (failsBy TagError.isFatal) :=
  .bind
    (executor.retry_tells adapter _ _ policy
      (executor.callTags_tells adapter resource .describe _))
    fun answer => .pure (by cases answer <;> rfl)

theorem replaceTags_tells (resource : TagResource) (tags : TagSet) (policy : RetryPolicy) :
    (executor.replaceTags resource tags policy).Tells (executor.isFatal adapter) false
      (failsBy TagError.isFatal) := by
  rw [replaceTags]
  split
  · exact .pure rfl
  · exact .bind
      (executor.retry_tells adapter _ _ policy
        (executor.callTags_tells adapter resource (.replace tags) _))
      fun answer => .pure (by cases answer <;> rfl)

theorem deleteTags_tells (resource : TagResource) (replaced : Nat) (keys : KeySet)
    (policy : RetryPolicy) :
    (executor.deleteTags resource replaced keys policy).Tells (executor.isFatal adapter)
      false (failsBy TagError.isFatal) := by
  rw [deleteTags]
  split
  · exact .pure rfl
  · exact .bind
      (executor.retry_tells adapter _ _ policy
        (executor.callTags_tells adapter resource (.delete keys) _))
      fun answer => .pure (by cases answer <;> rfl)

theorem applyTags_tells (resource : TagResource) (delta : TagDelta)
    (policy : RetryPolicy) :
    (executor.applyTags resource delta policy).Tells (executor.isFatal adapter) false
      (failsBy TagError.isFatal) := by
  apply Run.Tells.bind (executor.replaceTags_tells adapter resource _ policy)
  intro answer
  cases answer with
  | error error => exact .pure rfl
  | ok done => exact executor.deleteTags_tells adapter resource _ _ policy

theorem syncTags_tells (resource : TagResource) (desired observed : TagSet)
    (policy : RetryPolicy) :
    (executor.syncTags resource desired observed policy).Tells (executor.isFatal adapter)
      false (failsBy TagError.isFatal) := by
  rw [syncTags]
  split
  · exact .pure rfl
  · exact .bind (executor.applyTags_tells adapter resource _ policy) fun answer =>
      .pure (by cases answer <;> rfl)

end Executor

/-! ## Steps of a pass -/

theorem CallError.not_isFatal_of_isNotFound {error : CallError}
    (missing : error.isNotFound = true) : error.isFatal = false := by
  cases error with
  | nonRetryable operation source => rfl
  | _ => cases missing

/-- A fatal failure is no cancellation and no timeout. -/
theorem CallError.conclusive_of_isFatal {error : CallError} (fatal : error.isFatal = true) :
    error.isCancelled = false ∧ error.isTimeout = false := by
  cases error with
  | fatal operation source => exact ⟨rfl, rfl⟩
  | _ => cases fatal

theorem PassError.conclusive_of_isFatal {error : PassError} (fatal : error.isFatal = true) :
    error.isCancelled = false ∧ error.isTimeout = false := by
  cases error with
  | call error => exact CallError.conclusive_of_isFatal fatal
  | tags error => exact CallError.conclusive_of_isFatal fatal
  | poll error =>
      cases error with
      | read operation source => exact ⟨rfl, rfl⟩
      | _ => cases fatal
  | _ => cases fatal

namespace Reconciler

variable {World : Type} (reconciler : Reconciler World) (adapter : Adapter)

theorem call_tells {purpose : Purpose} (aside : purpose.isPoll = false)
    (request : Request) :
    (reconciler.call purpose request).Tells (reconciler.executor.isFatal adapter) false
      (failsBy CallError.isFatal) := by
  apply reconciler.executor.retry_tells adapter
  apply Run.Tells.of_notesAnswer
    (reconciler.executor.environment.call_notesAnswer purpose request)
  intro answer
  cases purpose with
  | poll phase => exact nomatch aside
  | _ => cases answer <;> rfl

theorem callAll_tells {purpose : Purpose} (aside : purpose.isPoll = false)
    (requests : List Request) :
    (reconciler.callAll purpose requests).Tells (reconciler.executor.isFatal adapter) false
      (failsBy CallError.isFatal) := by
  induction requests with
  | nil => exact .pure rfl
  | cons request requests ih =>
      apply Run.Tells.bind (reconciler.call_tells adapter aside request)
      intro answer
      cases answer with
      | error error => exact .pure rfl
      | ok answer => exact ih

/-- A read takes a resource that is not found for a missing one, but such a failure is
not fatal. -/
theorem read_tells {purpose : Purpose} (aside : purpose.isPoll = false)
    (id : Identifier) :
    (reconciler.read adapter id purpose).Tells (reconciler.executor.isFatal adapter) false
      (failsBy PassError.isFatal) := by
  apply Run.Tells.bind (reconciler.call_tells adapter aside _)
  intro answer
  cases answer with
  | error error =>
      dsimp only
      split
      next missing => exact .pure (CallError.not_isFatal_of_isNotFound missing).symm
      next found => exact .pure rfl
  | ok answer =>
      dsimp only
      cases adapter.readState answer with
      | error source => exact .pure rfl
      | ok found =>
          cases found with
          | none => exact .pure rfl
          | some observed =>
              dsimp only
              cases adapter.tagResource id with
              | none => exact .pure rfl
              | some resource =>
                  apply Run.Tells.bind
                    (reconciler.executor.describeTags_tells adapter resource _)
                  intro tags
                  cases tags with
                  | error error => exact .pure rfl
                  | ok tags => exact .pure rfl

theorem await_tells (id : Identifier) (phase : Phase) :
    (reconciler.await adapter id phase).Tells (reconciler.executor.isFatal adapter) false
      (failsBy PassError.isFatal) := by
  have reading : (do
      let answer ← reconciler.executor.environment.call (.poll phase)
        (adapter.readRequest id)
      return answer.bind adapter.readStatus : Run World _).Tells
        (reconciler.executor.isFatal adapter) false
        (failsBy (reconciler.executor.condemns .read)) := by
    apply Run.Tells.bind
    · apply Run.Tells.of_notesAnswer
        (reconciler.executor.environment.call_notesAnswer (.poll phase)
          (adapter.readRequest id))
      exact fun answer => rfl
    · intro answer
      apply Run.Tells.pure
      simp only [Executor.isFatal, Event.failure?]
      cases answer.bind adapter.readStatus <;> rfl
  apply Run.Tells.bind (reconciler.executor.await_tells adapter _ _ _ reading)
  intro waited
  cases waited with
  | error error => exact .pure rfl
  | ok status =>
      apply Run.Tells.bind (.of_notes (.note rfl))
      exact fun _ => .pure rfl

theorem applyTags_tells (record : Record) (id : Identifier) :
    (reconciler.applyTags adapter record id).Tells (reconciler.executor.isFatal adapter)
      false (failsBy PassError.isFatal) := by
  rw [applyTags]
  cases adapter.tagResource id with
  | none => exact .pure rfl
  | some resource =>
      apply Run.Tells.bind (reconciler.executor.syncTags_tells adapter resource _ _ _)
      intro answer
      cases answer with
      | error error => exact .pure rfl
      | ok delta => exact .pure rfl

/-! ## Taint along a pass -/

/-- Whether anything fatal has been noted in a session. -/
def metFatal (session : Session World) : Bool :=
  session.journal.any (reconciler.executor.isFatal adapter)

variable {reconciler adapter}
variable {session final : Session World} {record begun : Record} {stage : Stage}

theorem metFatal_of_call {purpose : Purpose} {request : Request}
    {answer : Except CallError Json}
    (called : reconciler.call purpose request session = some (answer, final))
    (aside : purpose.isPoll = false) :
    reconciler.metFatal adapter final =
      (failsBy CallError.isFatal answer || reconciler.metFatal adapter session) :=
  (reconciler.call_tells adapter aside request).any_journal called

theorem metFatal_of_callAll {purpose : Purpose} {requests : List Request}
    {answer : Except CallError Unit}
    (sent : reconciler.callAll purpose requests session = some (answer, final))
    (aside : purpose.isPoll = false) :
    reconciler.metFatal adapter final =
      (failsBy CallError.isFatal answer || reconciler.metFatal adapter session) :=
  (reconciler.callAll_tells adapter aside requests).any_journal sent

theorem metFatal_of_read {id : Identifier} {purpose : Purpose}
    {answer : Except PassError (Option ObservedState)}
    (read : reconciler.read adapter id purpose session = some (answer, final))
    (aside : purpose.isPoll = false) :
    reconciler.metFatal adapter final =
      (failsBy PassError.isFatal answer || reconciler.metFatal adapter session) :=
  (reconciler.read_tells adapter aside id).any_journal read

theorem metFatal_of_await {id : Identifier} {phase : Phase}
    {answer : Except PassError Unit}
    (awaited : reconciler.await adapter id phase session = some (answer, final)) :
    reconciler.metFatal adapter final =
      (failsBy PassError.isFatal answer || reconciler.metFatal adapter session) :=
  (reconciler.await_tells adapter id phase).any_journal awaited

theorem metFatal_of_applyTags {id : Identifier} {answer : Except PassError Unit}
    (applied : reconciler.applyTags adapter record id session = some (answer, final)) :
    reconciler.metFatal adapter final =
      (failsBy PassError.isFatal answer || reconciler.metFatal adapter session) :=
  (reconciler.applyTags_tells adapter record id).any_journal applied

theorem tainted_of_moved {next : RecordState}
    (entered : reconciler.moved session record next = .ok begun) :
    begun.tainted = record.tainted :=
  (untouched_of_moved entered).tainted

theorem tainted_of_failing (session : Session World) (record : Record) (phase : Phase)
    (error : PassError) :
    (reconciler.failing session record phase error).1.tainted =
      (record.tainted || error.isFatal) := by
  rw [failing, Record.fail]
  cases error.isFatal <;> cases error.isCancelled <;> cases error.isTimeout <;>
    cases allowed : record.state.canMoveTo (.failed phase) <;>
    simp [Record.moveTo, allowed]

theorem Declines.not_isFatal {outcome : Outcome} {left : Record}
    (declines : reconciler.Declines adapter session record stage outcome left) :
    outcome.isFatal = false := by
  cases declines <;> rfl

/-- An answer that holds no identifier is a failure, but none that the classifier has
judged. -/
theorem not_isFatal_of_createdId {desired : DesiredState} {request : Request}
    {answer : Json} {error : PassError}
    (refused : createdId adapter desired request answer = .error error) :
    error.isFatal = false := by
  rw [createdId] at refused
  cases parts : adapter.createdParts answer desired with
  | error source =>
      rw [parts] at refused
      cases refused
      rfl
  | ok parts' =>
      simp only [parts] at refused
      cases encoded : Identifier.encode parts' with
      | error fault =>
          rw [encoded] at refused
          cases refused
          rfl
      | ok id =>
          rw [encoded] at refused
          cases refused

/-- A step fails fatally exactly when it met something fatal. -/
theorem Fails.metFatal {phase : Phase} {error : PassError}
    (fails : reconciler.Fails adapter session record stage phase error begun final) :
    reconciler.metFatal adapter final =
      (error.isFatal || reconciler.metFatal adapter session) := by
  cases fails with
  | create _ called => exact metFatal_of_call called rfl
  | createAnswer _ called refused =>
      rw [not_isFatal_of_createdId refused]
      exact metFatal_of_call called rfl
  | await _ _ awaited => exact metFatal_of_await awaited
  | applyTags applied => exact metFatal_of_applyTags applied
  | readBack _ read => exact metFatal_of_read read rfl
  | vanished _ read => exact metFatal_of_read read rfl
  | refresh _ _ _ _ read => exact metFatal_of_read read rfl
  | send _ sent => exact metFatal_of_callAll sent rfl
  | delete _ _ _ called _ =>
      exact metFatal_of_call called rfl

/-- A fatal failure is reported as such, since it is no cancellation and no timeout. -/
theorem isFatal_of_failing (session : Session World) (record : Record) (phase : Phase)
    (error : PassError) :
    (reconciler.failing session record phase error).2.isFatal = error.isFatal := by
  rcases reconciler.failing_cases session record phase error with
    ⟨cancelled, outcome, -⟩ | ⟨-, timedOut, outcome, -⟩ | ⟨-, -, outcome, -⟩
  · rw [outcome]
    cases fatal : error.isFatal with
    | true => cases cancelled.symm.trans (PassError.conclusive_of_isFatal fatal).1
    | false => rfl
  · rw [outcome]
    cases fatal : error.isFatal with
    | true => cases timedOut.symm.trans (PassError.conclusive_of_isFatal fatal).2
    | false => rfl
  · rw [outcome]
    rfl

variable (reconciler adapter) in
/-- Something fatal has been met exactly when the pass has ended fatally, and the record is
tainted exactly then or if it was so before.  A delete that has reached its goal may have
cleared it. -/
def TaintedBy (before : Bool) (standing : Standing World) : Prop :=
  standing.stage ≠ .ended .deleted →
    reconciler.metFatal adapter standing.session = standing.stage.isFatal ∧
      standing.record.tainted = (before || standing.stage.isFatal)

variable (reconciler adapter) in
/-- Nothing fatal has been met, and the record is as tainted as before. -/
structure Calm (before : Bool) (standing : Standing World) : Prop where
  silent : reconciler.metFatal adapter standing.session = false
  tainted : standing.record.tainted = before

variable {before : Bool}

/-- A step that meets nothing fatal keeps the taint. -/
theorem Calm.taintedBy {standing next : Standing World}
    (calm : reconciler.Calm adapter before standing)
    (harmless : next.stage.isFatal = false)
    (keeps : next.record.tainted = standing.record.tainted)
    (quiet : reconciler.metFatal adapter next.session =
      reconciler.metFatal adapter standing.session) :
    reconciler.TaintedBy adapter before next := by
  intro _
  rw [quiet, calm.silent, keeps, calm.tainted, harmless, Bool.or_false]
  exact ⟨rfl, rfl⟩

theorem calm_of_step {standing next : Standing World}
    (taintedBy : reconciler.TaintedBy adapter before standing)
    (step : reconciler.Step adapter standing next) :
    reconciler.Calm adapter before standing := by
  have goesOn : 0 < standing.stage.rank := Nat.zero_lt_of_lt step.rank_lt
  rcases taintedBy fun ended => by simp [ended, Stage.rank] at goesOn with ⟨met, tainted⟩
  rw [Stage.not_isFatal_of_rank_pos goesOn] at met tainted
  exact ⟨met, tainted.trans (Bool.or_false before)⟩

theorem taintedBy_of_step {standing next : Standing World}
    (taintedBy : reconciler.TaintedBy adapter before standing)
    (step : reconciler.Step adapter standing next) :
    reconciler.TaintedBy adapter before next := by
  have calm := calm_of_step taintedBy step
  cases step with
  | declined declines => exact calm.taintedBy declines.not_isFatal declines.untouched.tainted rfl
  | failed fails =>
      intro _
      rw [fails.metFatal, calm.silent, Bool.or_false, Stage.isFatal, isFatal_of_failing,
        tainted_of_failing, fails.untouched.tainted, calm.tainted]
      exact ⟨rfl, rfl⟩
  | begins _ _ => exact calm.taintedBy rfl rfl rfl
  | resumes _ _ => exact calm.taintedBy rfl rfl rfl
  | updates _ _ => exact calm.taintedBy rfl rfl rfl
  | created entered called _ =>
      have keeps := tainted_of_moved entered
      exact calm.taintedBy rfl keeps (metFatal_of_call called rfl)
  | reached entered awaited =>
      have keeps := tainted_of_moved entered
      exact calm.taintedBy rfl keeps (metFatal_of_await awaited)
  | tagged applied =>
      exact calm.taintedBy rfl rfl (metFatal_of_applyTags applied)
  | observed entered read settles =>
      have moved := tainted_of_moved entered
      exact calm.taintedBy rfl ((tainted_of_moved settles).trans moved)
        (metFatal_of_read read rfl)
  | refreshed compares _ _ entered read =>
      have keeps := (tainted_of_moved entered).trans (tainted_of_moved compares)
      exact calm.taintedBy rfl keeps (metFatal_of_read read rfl)
  | gone compares _ _ entered read loses =>
      have keeps := (tainted_of_moved loses).trans
        ((tainted_of_moved entered).trans (tainted_of_moved compares))
      exact calm.taintedBy rfl keeps (metFatal_of_read read rfl)
  | unchanged compares _ _ _ settles =>
      have moved := tainted_of_moved compares
      exact calm.taintedBy rfl ((tainted_of_moved settles).trans moved) rfl
  | differs compares _ _ _ =>
      exact calm.taintedBy rfl (tainted_of_moved compares) rfl
  | sentNone entered sent =>
      have keeps := tainted_of_moved entered
      exact calm.taintedBy rfl keeps (metFatal_of_callAll sent rfl)
  | sent _ entered sent =>
      have keeps := tainted_of_moved entered
      exact calm.taintedBy rfl keeps (metFatal_of_callAll sent rfl)
  | unknown _ => exact fun notDeleted => absurd rfl notDeleted
  | resumesDelete _ _ => exact calm.taintedBy rfl rfl rfl
  | @deleting _ _ _ _ _ answer _ _ entered called missing =>
      have quiet : failsBy CallError.isFatal answer = false := by
        cases answer with
        | ok answer => rfl
        | error error => exact CallError.not_isFatal_of_isNotFound (missing error rfl)
      refine calm.taintedBy rfl (tainted_of_moved entered) ?_
      exact (metFatal_of_call called rfl).trans (by rw [quiet, Bool.false_or])
  | deleted _ _ _ => exact fun notDeleted => absurd rfl notDeleted

end Reconciler

namespace Pass

variable {World : Type} {adapter : Adapter} (pass : Pass World adapter)

theorem taintedBy_ending :
    pass.reconciler.TaintedBy adapter pass.before.tainted pass.ending := by
  have begins : pass.reconciler.TaintedBy adapter pass.before.tainted pass.opening := by
    intro _
    rw [opening]
    cases pass.goal <;> exact ⟨rfl, (Bool.or_false _).symm⟩
  exact Reconciler.invariant_of_steps (fun _ _ => Reconciler.taintedBy_of_step) pass.steps
    begins

/-- A pass that does not delete the resource leaves a tainted record exactly when it was
given one or has ended fatally. -/
theorem tainted_after (notDeleted : pass.outcome ≠ .deleted) :
    pass.after.tainted = (pass.before.tainted || pass.outcome.isFatal) :=
  (pass.taintedBy_ending fun ended => notDeleted (Stage.ended.inj ended)).2

/-- A pass that does not delete the resource leaves a tainted record exactly when it was
given one or has met something fatal. -/
theorem tainted_after_iff (notDeleted : pass.outcome ≠ .deleted) :
    pass.after.tainted = true ↔ pass.before.tainted = true ∨
      ∃ event ∈ pass.journal, pass.reconciler.executor.isFatal adapter event = true := by
  have met : pass.reconciler.metFatal adapter pass.final = pass.outcome.isFatal :=
    (pass.taintedBy_ending fun ended => notDeleted (Stage.ended.inj ended)).1
  rw [pass.tainted_after notDeleted, ← met, Bool.or_eq_true, Reconciler.metFatal,
    List.any_eq_true, journal]

variable {pass} in
/-- A reconcile of a tainted record does nothing. -/
theorem ended_of_tainted {desired : DesiredState} (goal : pass.goal = .reconcile desired)
    (tainted : pass.before.tainted = true) :
    pass.outcome = .unusable ∧ pass.journal = [] ∧ pass.after = pass.before := by
  have ran := pass.ran
  rw [goal, Reconciler.pursue, Reconciler.reconcile, if_pos tainted] at ran
  have result := Prod.mk.inj (Option.some.inj ran)
  have ended := Prod.mk.inj result.1
  refine ⟨ended.2.symm, ?_, ended.1.symm⟩
  rw [journal, ← result.2]
  rfl

/-- The law of taint.  A reconcile leaves a tainted record exactly when it was given one
or a failure it met was judged to be fatal; given one, it does nothing at all.  A delete
that does not reach its goal follows the same law, so it never clears a taint. -/
theorem taint_law :
    (∀ desired, pass.goal = .reconcile desired →
      (pass.after.tainted = true ↔ pass.before.tainted = true ∨
        ∃ event ∈ pass.journal, pass.reconciler.executor.isFatal adapter event = true) ∧
      (pass.before.tainted = true →
        pass.outcome = .unusable ∧ pass.journal = [] ∧ pass.after = pass.before)) ∧
    (pass.goal = .delete → pass.outcome ≠ .deleted →
      (pass.after.tainted = true ↔ pass.before.tainted = true ∨
        ∃ event ∈ pass.journal,
          pass.reconciler.executor.isFatal adapter event = true)) := by
  constructor
  · intro desired goal
    constructor
    · apply pass.tainted_after_iff
      intro deleted
      cases goal.symm.trans (goal_of_deleted deleted)
    · exact ended_of_tainted goal
  · intro _
    exact pass.tainted_after_iff

end Pass

namespace Simulation.Server

/-- Only the tags of the server are to change: its owner is no longer wanted. -/
def disowned : DesiredState where
  tags := .ofList [("team", "blue")]

/-- The remote refuses for good. -/
def forbidden : Entry where
  answer := .error (.api "AuthFailure" "signature rejected" none)

/-- The remote does not accept what it is asked. -/
def rejected : Entry where
  answer := .error (.api "InvalidParameter" "no such zone" none)

/-- The new tag of the server is set, but removing the old one is forbidden. -/
def retags : Pass World adapter :=
  .ofEnded reconciler adapter known (.reconcile disowned)
    (world [("Describe", [found 2 "ready"]),
      ("DescribeResourceTags", [tagged "owner" "red"]),
      ("TagResources", [accepted]), ("UnTagResources", [forbidden])])
    (by decide +kernel)

/-- The change of tags is tried again. -/
def retagsAgain : Pass World adapter :=
  .ofEnded reconciler adapter retags.after (.reconcile disowned) (world [])
    (by decide +kernel)

/-- The server cannot be given up, since its delete request is rejected. -/
def keepsServer : Pass World adapter :=
  .ofEnded reconciler adapter retags.after .delete (world [("Delete", [rejected])])
    (by decide +kernel)

theorem retagged_server_taint_law :
    [retags, retagsAgain, keepsServer].map (fun pass => pass.outcome.name) =
      ["update_failed", "unusable", "delete_failed"] ∧
    (retags.after.tainted = true ↔ retags.before.tainted = true ∨
      ∃ event ∈ retags.journal, reconciler.executor.isFatal adapter event = true) ∧
    (retagsAgain.outcome = .unusable ∧ retagsAgain.journal = [] ∧
      retagsAgain.after = retagsAgain.before) ∧
    (keepsServer.after.tainted = true ↔ keepsServer.before.tainted = true ∨
      ∃ event ∈ keepsServer.journal,
        reconciler.executor.isFatal adapter event = true) := by
  refine ⟨by decide +kernel, ?_, ?_, ?_⟩
  · exact ((Pass.taint_law retags).1 disowned rfl).1
  · exact ((Pass.taint_law retagsAgain).1 disowned rfl).2 (by decide +kernel)
  · exact (Pass.taint_law keepsServer).2 rfl (by decide +kernel)

end Simulation.Server

end ControlLoop
