import ControlLoop.Proofs.Missing
import ControlLoop.Proofs.Taint

/-!
# Certainty

A pass that was stopped before it knew how a change ended does not call that a failure.
Only a call knows that it was cancelled or ran out of time, and every layer above it hands
that up as what it is: a wait turns it into a cancellation or a timeout of its own, and a
failed step reports it as such.  So a cancellation is reported only when the caller has
cancelled, a timeout only when a call or a wait timed out, and what is reported as a
failure has neither of the two anywhere below it.

Main statement: `Pass.reports_certainty`.
-/

namespace ControlLoop

/-! ## What failures say -/

/-- The outside does not take a cancellation back, and cuts no sleep short without one. -/
structure Environment.HoldsToken {World : Type} (environment : Environment World) :
    Prop where
  now : ∀ world, environment.cancelled world = true →
    environment.cancelled (environment.now world).2 = true
  sleep : ∀ duration world, (environment.sleep duration world).1 = false →
    environment.cancelled (environment.sleep duration world).2 = true

/-- The caller has cancelled, as far as the outside can be relied on. -/
def Environment.Fired {World : Type} (environment : Environment World) (world : World) :
    Prop :=
  environment.HoldsToken → environment.cancelled world = true

namespace CallError

/-- The end of a call is unknown: it ran out of time or was cancelled. -/
inductive IsInconclusive : CallError → Prop where
  | timeout {operation : String} {attempts : Nat} {elapsed : Duration}
      {lastError : Option RemoteError} :
      IsInconclusive (.timeout operation attempts elapsed lastError)
  | cancelled {operation : String} : IsInconclusive (.cancelled operation)

/-- The remote answered with a code of missing resources. -/
inductive TellsMissing : CallError → Prop where
  | answered {operation code message : String} {requestId : Option String} :
      Classifier.Covers RemoteError.missingCode code →
      TellsMissing (.nonRetryable operation (.api code message requestId))

variable {error : CallError}

theorem not_isInconclusive_iff :
    ¬ error.IsInconclusive ↔ error.isTimeout = false ∧ error.isCancelled = false := by
  cases error with
  | timeout => exact ⟨fun known => absurd .timeout known, fun known => nomatch known.1⟩
  | cancelled => exact ⟨fun known => absurd .cancelled known, fun known => nomatch known.2⟩
  | _ => exact ⟨fun _ => ⟨rfl, rfl⟩, fun _ => nofun⟩

theorem tellsMissing_iff : error.TellsMissing ↔ error.isNotFound = true := by
  constructor
  · rintro ⟨covers⟩
    exact RemoteError.isNotFoundCode_iff.2 covers
  · intro missing
    cases error with
    | nonRetryable operation source =>
        cases source with
        | api => exact .answered (RemoteError.isNotFoundCode_iff.1 missing)
        | _ => cases missing
    | _ => cases missing

end CallError

/-- The end of a wait is unknown: it ran out of time or was cancelled. -/
inductive PollError.IsInconclusive : PollError → Prop where
  | timeout {operation : String} {polls : Nat} {elapsed : Duration}
      {lastStatus : Option String} :
      IsInconclusive (.timeout operation polls elapsed lastStatus)
  | cancelled {operation : String} : IsInconclusive (.cancelled operation)

theorem PollError.not_isInconclusive_iff {error : PollError} :
    ¬ error.IsInconclusive ↔ error.isTimeout = false ∧ error.isCancelled = false := by
  cases error with
  | timeout => exact ⟨fun known => absurd .timeout known, fun known => nomatch known.1⟩
  | cancelled => exact ⟨fun known => absurd .cancelled known, fun known => nomatch known.2⟩
  | _ => exact ⟨fun _ => ⟨rfl, rfl⟩, fun _ => nofun⟩

/-- A cancelled call means that the caller has cancelled. -/
def CallError.IsCertain (fired : Prop) : CallError → Prop
  | .cancelled _ => fired
  | _ => True

/-- A cancelled wait means that the caller has cancelled.  A wait fails by a status read
only when the end of the read is known, and the resource was not missing. -/
def PollError.IsCertain (fired : Prop) : PollError → Prop
  | .cancelled _ => fired
  | .read _ source => ¬ source.IsInconclusive ∧ ¬ source.TellsMissing
  | _ => True

/-- A change of tags is as certain as the call that was made for it. -/
def TagError.IsCertain (fired : Prop) (error : TagError) : Prop :=
  error.source.IsCertain fired

namespace PassError

/-- All failures above hold of the failure behind a pass. -/
def IsCertain (fired : Prop) : PassError → Prop
  | .call error => error.IsCertain fired
  | .poll error => error.IsCertain fired
  | .tags error => error.IsCertain fired
  | _ => True

/-- The failed calls in the chain of a failure. -/
def calls : PassError → List CallError
  | .call error => [error]
  | .poll (.read _ source) => [source]
  | .tags error => [error.source]
  | _ => []

/-- The failed waits in the chain of a failure. -/
def polls : PassError → List PollError
  | .poll error => [error]
  | _ => []

/-- Nothing in the chain of a failure is a cancellation or a timeout. -/
structure IsConclusive (error : PassError) : Prop where
  calls : ∀ call ∈ error.calls, ¬ call.IsInconclusive
  polls : ∀ poll ∈ error.polls, ¬ poll.IsInconclusive

/-- A call or a wait ran out of time, possibly in a change of tags. -/
inductive TimesOut : PassError → Prop where
  | call {operation : String} {attempts : Nat} {elapsed : Duration}
      {lastError : Option RemoteError} :
      TimesOut (.call (.timeout operation attempts elapsed lastError))
  | poll {operation : String} {polls : Nat} {elapsed : Duration}
      {lastStatus : Option String} :
      TimesOut (.poll (.timeout operation polls elapsed lastStatus))
  | tags {step : TagStep} {resource operation : String} {attempts : Nat}
      {elapsed : Duration} {lastError : Option RemoteError} :
      TimesOut (.tags ⟨step, resource, .timeout operation attempts elapsed lastError⟩)

theorem timesOut_of_isTimeout {error : PassError} (timeout : error.isTimeout = true) :
    error.TimesOut := by
  cases error with
  | call error =>
      cases error with
      | timeout => exact .call
      | _ => cases timeout
  | poll error =>
      cases error with
      | timeout => exact .poll
      | _ => cases timeout
  | tags error =>
      obtain ⟨step, resource, source⟩ := error
      cases source with
      | timeout => exact .tags
      | _ => cases timeout
  | _ => cases timeout

/-- Where the caller has cancelled, so that a failure says it. -/
theorem fired_of_isCancelled {fired : Prop} {error : PassError}
    (certain : error.IsCertain fired) (cancelled : error.isCancelled = true) : fired := by
  cases error with
  | call error =>
      cases error with
      | cancelled => exact certain
      | _ => cases cancelled
  | poll error =>
      cases error with
      | cancelled => exact certain
      | _ => cases cancelled
  | tags error =>
      obtain ⟨step, resource, source⟩ := error
      cases source with
      | cancelled => exact certain
      | _ => cases cancelled
  | _ => cases cancelled

/-- A failure that itself is no cancellation and no timeout hides none. -/
theorem IsCertain.isConclusive {fired : Prop} {error : PassError}
    (certain : error.IsCertain fired) (notTimeout : error.isTimeout = false)
    (notCancelled : error.isCancelled = false) : error.IsConclusive where
  calls := by
    intro call member
    cases error with
    | call error =>
        rw [List.mem_singleton.1 member]
        exact CallError.not_isInconclusive_iff.2 ⟨notTimeout, notCancelled⟩
    | tags error =>
        rw [List.mem_singleton.1 member]
        exact CallError.not_isInconclusive_iff.2 ⟨notTimeout, notCancelled⟩
    | poll error =>
        cases error with
        | read operation source => exact List.mem_singleton.1 member ▸ certain.1
        | _ => cases member
    | _ => cases member
  polls := by
    intro poll member
    cases error with
    | poll error =>
        rw [List.mem_singleton.1 member]
        exact PollError.not_isInconclusive_iff.2 ⟨notTimeout, notCancelled⟩
    | _ => cases member

end PassError

/-! ## What runs ensure -/

namespace Run

variable {World α β : Type}

/-- Whenever the world meets a condition before a run, the answer and the world meet
another one after it. -/
structure Ensures (run : Run World α) (before : World → Prop) (after : α → World → Prop) :
    Prop where
  meets : ∀ {session answer final}, before session.world →
    run session = some (answer, final) → after answer final.world

/-- An answer is no failure but one of a kind, which may depend on the world. -/
def FailsOnly {ε : Type} (kind : World → ε → Prop) : Except ε α → World → Prop
  | .ok _, _ => True
  | .error error, world => kind world error

namespace Ensures

variable {before : World → Prop} {after : α → World → Prop}

theorem pure {answer : α} (holds : ∀ world, before world → after answer world) :
    (pure answer : Run World α).Ensures before after where
  meets := by
    intro session given final met ran
    cases ran
    exact holds _ met

theorem outOfRounds : (Run.outOfRounds : Run World α).Ensures before after :=
  ⟨fun _ => nofun⟩

theorem look {view : World → α} (holds : ∀ world, before world → after (view world) world) :
    (Run.look view).Ensures before after where
  meets := by
    intro session answer final met ran
    cases ran
    exact holds _ met

theorem act {action : World → α × World}
    (holds : ∀ world, before world → after (action world).1 (action world).2) :
    (Run.act action).Ensures before after where
  meets := by
    intro session answer final met ran
    cases ran
    exact holds _ met

theorem note {event : Event} {after : Unit → World → Prop}
    (holds : ∀ world, before world → after () world) :
    (Run.note event).Ensures before after where
  meets := by
    intro session answer final met ran
    cases ran
    exact holds _ met

theorem bind {run : Run World α} {next : α → Run World β} {last : β → World → Prop}
    (first : run.Ensures before after)
    (later : ∀ answer, (next answer).Ensures (after answer) last) :
    (run >>= next).Ensures before last where
  meets := by
    intro session result final met ran
    obtain ⟨answer, middle, ranFirst, ranLater⟩ := bind_eq_some_iff.1 ran
    exact (later answer).meets (first.meets met ranFirst) ranLater

/-- What a run answers and leaves may not matter. -/
theorem anything (run : Run World α) : run.Ensures before fun _ _ => True :=
  ⟨fun _ _ => trivial⟩

/-- What a run ensures in any case does not depend on what was before it. -/
theorem always {run : Run World α} (ensures : run.Ensures (fun _ => True) after) :
    run.Ensures before after :=
  ⟨fun _ => ensures.meets trivial⟩

end Ensures

end Run

namespace Environment

variable {World : Type} (environment : Environment World)

/-- A run fails only with what is certain, whatever was before it. -/
abbrev Certifies {α ε : Type} (kind : Prop → ε → Prop) (run : Run World (Except ε α)) :
    Prop :=
  run.Ensures (fun _ => True)
    (Run.FailsOnly fun world error => kind (environment.Fired world) error)

theorem isCancelled_ensures :
    environment.isCancelled.Ensures (fun _ => True) fun cancelled world =>
      cancelled = true → environment.Fired world :=
  .look fun _ _ cancelled _ => cancelled

/-- A look at the clock changes nothing about the certainty of an answer. -/
theorem time_keeps {α : Type} (answer : Except CallError α) :
    environment.time.Ensures
      (Run.FailsOnly (fun world error => error.IsCertain (environment.Fired world)) answer)
      fun _ =>
        Run.FailsOnly (fun world error => error.IsCertain (environment.Fired world)) answer := by
  apply Run.Ensures.act
  intro world certain
  cases answer with
  | ok value => trivial
  | error error =>
      cases error with
      | cancelled operation => exact fun law => law.now world (certain law)
      | _ => trivial

theorem rest_ensures (duration : Duration) :
    (environment.rest duration).Ensures (fun _ => True) fun completed world =>
      completed = false → environment.Fired world := by
  have interrupts : (Run.act (environment.sleep duration)).Ensures (fun _ => True)
      fun completed world => completed = false → environment.Fired world :=
    .act fun world _ interrupted law => law.sleep duration world interrupted
  apply Run.Ensures.bind interrupts
  intro completed
  exact .bind (.note fun _ fired => fired) fun _ => .pure fun _ fired => fired

end Environment

namespace Executor

variable {World α : Type} (executor : Executor World)

variable {executor} in
theorem retryAfter_certifies {operation : String} {kind : OperationKind}
    {policy : RetryPolicy} {attempt : Run World (Except RemoteError α)}
    {started : Duration} {rounds attempts : Nat}
    (again : executor.environment.Certifies CallError.IsCertain
      (executor.retryFrom operation kind policy attempt started rounds (attempts + 1)))
    (answer : Except RemoteError α) :
    executor.environment.Certifies CallError.IsCertain
      (executor.retryAfter operation kind policy attempt started rounds attempts answer) := by
  cases answer with
  | ok result => exact .pure fun _ _ => trivial
  | error failure =>
      rw [retryAfter]
      cases executor.classifier.classify failure kind with
      | nonRetryable => exact .pure fun _ _ => trivial
      | fatal => exact .pure fun _ _ => trivial
      | retryable =>
          apply Run.Ensures.bind (.anything _)
          intro now
          dsimp only
          split
          · exact .pure fun _ _ => trivial
          · apply Run.Ensures.bind (.anything _)
            intro pause
            apply Run.Ensures.bind (executor.environment.rest_ensures _)
            intro completed
            cases completed with
            | true => exact again.always
            | false => exact .pure fun _ fired => fired rfl

/-- A call is cancelled only if the caller has cancelled. -/
theorem retryFrom_certifies (operation : String) (kind : OperationKind)
    (policy : RetryPolicy) (attempt : Run World (Except RemoteError α)) (started : Duration)
    (rounds attempts : Nat) :
    executor.environment.Certifies CallError.IsCertain
      (executor.retryFrom operation kind policy attempt started rounds attempts) := by
  induction rounds generalizing attempts with
  | zero => exact .outOfRounds
  | succ rounds ih =>
      rw [retryFrom_succ]
      apply Run.Ensures.bind executor.environment.isCancelled_ensures
      intro cancelled
      cases cancelled with
      | true => exact .pure fun _ fired => fired rfl
      | false =>
          apply Run.Ensures.bind (.anything attempt)
          exact fun answer => (retryAfter_certifies (ih (attempts + 1)) answer).always

/-- A call is cancelled only if the caller has cancelled. -/
theorem retry_certifies (operation : String) (kind : OperationKind) (policy : RetryPolicy)
    (attempt : Run World (Except RemoteError α)) :
    executor.environment.Certifies CallError.IsCertain
      (executor.retry operation kind policy attempt) :=
  .bind (.anything _) fun started =>
    executor.retryFrom_certifies operation kind policy attempt started executor.rounds 0

/-- What a status read comes to is as certain as the call that was made for it. -/
theorem statusOf_certain {fired : Prop} {operation : String} {polls : Nat}
    {elapsed : Duration} {answer : Except CallError ObservedStatus} {error : PollError}
    (certain : ∀ failure, answer = .error failure → failure.IsCertain fired)
    (failed : statusOf operation polls elapsed answer = .error error) :
    error.IsCertain fired := by
  cases answer with
  | ok status => cases failed
  | error failure =>
      have certain := certain failure rfl
      cases found : failure.isNotFound with
      | true =>
          simp only [statusOf, found, if_true] at failed
          cases failed
      | false =>
          simp only [statusOf, found, Bool.false_eq_true, if_false] at failed
          have notMissing : ¬ failure.TellsMissing := by
            rw [CallError.tellsMissing_iff, found]
            exact Bool.false_ne_true
          cases failure with
          | cancelled name =>
              cases failed
              exact certain
          | timeout name attempts elapsed lastError =>
              cases failed
              trivial
          | nonRetryable name source =>
              cases failed
              exact ⟨CallError.not_isInconclusive_iff.2 ⟨rfl, rfl⟩, notMissing⟩
          | fatal name source =>
              cases failed
              exact ⟨CallError.not_isInconclusive_iff.2 ⟨rfl, rfl⟩, notMissing⟩

variable {executor} in
theorem awaitAfter_certifies {operation : String} {target : Target} {policy : PollPolicy}
    {read : Run World (Except RemoteError ObservedStatus)} {started : Duration}
    {rounds polls : Nat}
    (again : executor.environment.Certifies PollError.IsCertain
      (executor.awaitFrom operation target policy read started rounds (polls + 1)))
    (answer : Except CallError ObservedStatus) :
    (executor.awaitAfter operation target policy read started rounds polls answer).Ensures
      (Run.FailsOnly
        (fun world error => error.IsCertain (executor.environment.Fired world)) answer)
      (Run.FailsOnly fun world error =>
        error.IsCertain (executor.environment.Fired world)) := by
  apply Run.Ensures.bind (executor.environment.time_keeps answer)
  intro later
  dsimp only
  cases read : statusOf operation (polls + 1) (later - started) answer with
  | error failure =>
      apply Run.Ensures.pure
      intro world certain
      refine statusOf_certain ?_ read
      rintro error rfl
      exact certain
  | ok status =>
      dsimp only
      cases target.evaluate status with
      | reached => exact .pure fun _ _ => trivial
      | failed status => exact .pure fun _ _ => trivial
      | pending =>
          dsimp only
          split
          · exact .pure fun _ _ => trivial
          · apply Run.Ensures.bind (executor.environment.rest_ensures _).always
            intro completed
            cases completed with
            | true => exact again.always
            | false => exact .pure fun _ fired => fired rfl

/-- A wait is cancelled only if the caller has cancelled, and fails by a status read only
when the end of the read is known. -/
theorem awaitFrom_certifies (operation : String) (target : Target) (policy : PollPolicy)
    (read : Run World (Except RemoteError ObservedStatus)) (started : Duration)
    (rounds polls : Nat) :
    executor.environment.Certifies PollError.IsCertain
      (executor.awaitFrom operation target policy read started rounds polls) := by
  induction rounds generalizing polls with
  | zero => exact .outOfRounds
  | succ rounds ih =>
      rw [awaitFrom_succ]
      apply Run.Ensures.bind executor.environment.isCancelled_ensures
      intro cancelled
      cases cancelled with
      | true => exact .pure fun _ fired => fired rfl
      | false =>
          apply Run.Ensures.bind (.anything _)
          intro now
          apply Run.Ensures.bind (executor.retry_certifies _ _ _ _).always
          exact fun answer => awaitAfter_certifies (ih (polls + 1)) answer

theorem await_certifies (operation : String) (target : Target) (policy : PollPolicy)
    (read : Run World (Except RemoteError ObservedStatus)) :
    executor.environment.Certifies PollError.IsCertain
      (executor.await operation target policy read) :=
  .bind (.anything _) fun started =>
    executor.awaitFrom_certifies operation target policy read started executor.rounds 0

/-! ## Tags -/

variable {executor} in
/-- What is done with the answer of a call of the tag service leaves its failure as it
is. -/
theorem tagError_certifies {step : TagStep} {resource : String}
    {call : Run World (Except CallError α)}
    (certifies : executor.environment.Certifies CallError.IsCertain call) :
    executor.environment.Certifies TagError.IsCertain (do
      let answer ← call
      return answer.mapError fun source => (⟨step, resource, source⟩ : TagError)) := by
  apply Run.Ensures.bind certifies
  intro answer
  cases answer with
  | error error => exact .pure fun _ failed => failed
  | ok value => exact .pure fun _ _ => trivial

theorem describeTags_certifies (resource : TagResource) (policy : RetryPolicy) :
    executor.environment.Certifies TagError.IsCertain
      (executor.describeTags resource policy) :=
  tagError_certifies (executor.retry_certifies _ _ _ _)

theorem replaceTags_certifies (resource : TagResource) (tags : TagSet)
    (policy : RetryPolicy) :
    executor.environment.Certifies TagError.IsCertain
      (executor.replaceTags resource tags policy) := by
  rw [replaceTags]
  split
  · exact .pure fun _ _ => trivial
  · exact tagError_certifies (executor.retry_certifies _ _ _ _)

theorem deleteTags_certifies (resource : TagResource) (replaced : Nat) (keys : KeySet)
    (policy : RetryPolicy) :
    executor.environment.Certifies TagError.IsCertain
      (executor.deleteTags resource replaced keys policy) := by
  rw [deleteTags]
  split
  · exact .pure fun _ _ => trivial
  · exact tagError_certifies (executor.retry_certifies _ _ _ _)

theorem applyTags_certifies (resource : TagResource) (delta : TagDelta)
    (policy : RetryPolicy) :
    executor.environment.Certifies TagError.IsCertain
      (executor.applyTags resource delta policy) := by
  apply Run.Ensures.bind (executor.replaceTags_certifies resource _ policy)
  intro answer
  cases answer with
  | error error => exact .pure fun _ failed => failed
  | ok done => exact (executor.deleteTags_certifies resource _ _ policy).always

theorem syncTags_certifies (resource : TagResource) (desired observed : TagSet)
    (policy : RetryPolicy) :
    executor.environment.Certifies TagError.IsCertain
      (executor.syncTags resource desired observed policy) := by
  rw [syncTags]
  split
  · exact .pure fun _ _ => trivial
  · apply Run.Ensures.bind (executor.applyTags_certifies resource _ policy)
    intro answer
    cases answer with
    | error error => exact .pure fun _ failed => failed
    | ok done => exact .pure fun _ _ => trivial

end Executor

namespace Reconciler

variable {World : Type} (reconciler : Reconciler World)

/-! ## Steps -/

theorem call_certifies (purpose : Purpose) (request : Request) :
    reconciler.executor.environment.Certifies CallError.IsCertain
      (reconciler.call purpose request) :=
  reconciler.executor.retry_certifies _ _ _ _

theorem callAll_certifies (purpose : Purpose) (requests : List Request) :
    reconciler.executor.environment.Certifies CallError.IsCertain
      (reconciler.callAll purpose requests) := by
  induction requests with
  | nil => exact .pure fun _ _ => trivial
  | cons request requests ih =>
      apply Run.Ensures.bind (reconciler.call_certifies purpose request)
      intro answer
      cases answer with
      | error error => exact .pure fun _ failed => failed
      | ok answer => exact ih.always

variable (adapter : Adapter) (record : Record) (id : Identifier)

theorem read_certifies (purpose : Purpose) :
    reconciler.executor.environment.Certifies PassError.IsCertain
      (reconciler.read adapter id purpose) where
  meets := by
    intro session result final _ ran
    cases reconciler.reads_of_read adapter id ran with
    | failed called _ => exact (reconciler.call_certifies _ _).meets trivial called
    | @tagged _ _ _ tags _ _ _ _ _ described =>
        have failed := (reconciler.executor.describeTags_certifies _ _).meets trivial described
        cases tags with
        | error error => exact failed
        | ok tags => trivial
    | _ => trivial

theorem await_certifies (phase : Phase) :
    reconciler.executor.environment.Certifies PassError.IsCertain
      (reconciler.await adapter id phase) := by
  apply Run.Ensures.bind (reconciler.executor.await_certifies _ _ _ _)
  intro answer
  cases answer with
  | error error => exact .pure fun _ failed => failed
  | ok status => exact .bind (.anything _) fun _ => .pure fun _ _ => trivial

theorem applyTags_certifies :
    reconciler.executor.environment.Certifies PassError.IsCertain
      (reconciler.applyTags adapter record id) := by
  rw [applyTags]
  cases adapter.tagResource id with
  | none => exact .pure fun _ _ => trivial
  | some resource =>
      apply Run.Ensures.bind (reconciler.executor.syncTags_certifies resource _ _ _)
      intro answer
      cases answer with
      | error error => exact .pure fun _ failed => failed
      | ok delta => exact .pure fun _ _ => trivial

section

variable {reconciler adapter record}
variable {session final : Session World} {begun : Record} {stage : Stage}

/-- An answer from which no identifier can be had is no unknown end. -/
theorem certain_of_createdId {fired : Prop} {desired : DesiredState} {request : Request}
    {answer : Json} {error : PassError}
    (created : createdId adapter desired request answer = .error error) :
    error.IsCertain fired := by
  rw [createdId] at created
  cases parsed : adapter.createdParts answer desired with
  | error source =>
      rw [parsed] at created
      cases created
      trivial
  | ok parts =>
      rw [parsed] at created
      dsimp only at created
      cases encoded : Identifier.encode parts with
      | error error =>
          rw [encoded] at created
          cases created
          trivial
      | ok id =>
          rw [encoded] at created
          cases created

/-- The failure of a step says only what is certain. -/
theorem Fails.certain {phase : Phase} {error : PassError}
    (fails : reconciler.Fails adapter session record stage phase error begun final) :
    error.IsCertain (reconciler.executor.environment.Fired final.world) := by
  cases fails with
  | create _ called => exact (reconciler.call_certifies _ _).meets trivial called
  | createAnswer _ _ created =>
      exact certain_of_createdId created
  | await _ _ awaited => exact (reconciler.await_certifies _ _ _).meets trivial awaited
  | applyTags applied => exact (reconciler.applyTags_certifies _ _ _).meets trivial applied
  | readBack _ read => exact (reconciler.read_certifies _ _ _).meets trivial read
  | vanished _ _ => trivial
  | refresh _ _ _ _ read => exact (reconciler.read_certifies _ _ _).meets trivial read
  | send _ sent => exact (reconciler.callAll_certifies _ _).meets trivial sent
  | delete _ _ _ called _ => exact (reconciler.call_certifies _ _).meets trivial called

end

end Reconciler

/-! ## Along a pass -/

/-- An outcome says only what is certain: a cancellation that the caller has cancelled, a
timeout that a call or a wait timed out, a failure that neither is behind it. -/
def Outcome.IsCertain (fired : Prop) : Outcome → Prop
  | .cancelled _ => fired
  | .timedOut _ error => error.TimesOut
  | .failed _ error => error.IsConclusive
  | _ => True

/-- A pass that has ended says only what is certain. -/
def Reconciler.Certain {World : Type} (reconciler : Reconciler World)
    (standing : Standing World) : Prop :=
  match standing.stage with
  | .ended outcome =>
      outcome.IsCertain (reconciler.executor.environment.Fired standing.session.world)
  | _ => True

namespace Reconciler

variable {World : Type} {reconciler : Reconciler World} {adapter : Adapter}

/-- What a failed step reports is certain. -/
theorem certain_of_failing {session : Session World} {record : Record} {phase : Phase}
    {error : PassError} {fired : Prop} (certain : error.IsCertain fired) :
    (reconciler.failing session record phase error).2.IsCertain fired := by
  rcases reconciler.failing_cases session record phase error with
    ⟨cancelled, outcome, -⟩ | ⟨-, timeout, outcome, -⟩ | ⟨notCancelled, notTimeout, outcome, -⟩
  · rw [outcome]
    exact PassError.fired_of_isCancelled certain cancelled
  · rw [outcome]
    exact PassError.timesOut_of_isTimeout timeout
  · rw [outcome]
    exact certain.isConclusive notTimeout notCancelled

theorem certain_of_step {standing next : Standing World}
    (step : reconciler.Step adapter standing next) : reconciler.Certain next := by
  cases step with
  | declined declines => cases declines <;> trivial
  | failed fails => exact certain_of_failing fails.certain
  | _ => trivial

end Reconciler

/-- An unknown end is never reported as a known one, for any pass over any record.  It is
cancelled only if the caller has cancelled, provided that the outside keeps a cancellation
and cuts no sleep short without one.  It times out only if a call or a wait ran out of time.
It fails only with a failure that neither is behind, at any depth.  No wait of any executor
fails by a status read that timed out, was cancelled or did not find the resource. -/
theorem Pass.reports_certainty {World : Type} {adapter : Adapter}
    (pass : Pass World adapter) :
    (pass.reconciler.executor.environment.HoldsToken → ∀ phase,
      pass.outcome = .cancelled phase →
        pass.reconciler.executor.environment.cancelled pass.final.world = true) ∧
    (∀ phase error, pass.outcome = .timedOut phase error → error.TimesOut) ∧
    (∀ phase error, pass.outcome = .failed phase error → error.IsConclusive) ∧
    ∀ (executor : Executor World) (operation name : String) (target : Target)
      (policy : PollPolicy) (read : Run World (Except RemoteError ObservedStatus))
      (source : CallError) (session final : Session World),
      executor.await operation target policy read session =
          some (.error (.read name source), final) →
        ¬ source.IsInconclusive ∧ ¬ source.TellsMissing := by
  have certain : pass.reconciler.Certain pass.ending := by
    have kept (standing next : Standing World) (_ : pass.reconciler.Certain standing)
        (step : pass.reconciler.Step adapter standing next) : pass.reconciler.Certain next :=
      Reconciler.certain_of_step step
    have begins : pass.reconciler.Certain pass.opening := by
      rw [Reconciler.Certain, Pass.opening]
      cases pass.goal <;> trivial
    exact Reconciler.invariant_of_runFrom kept pass.ranFrom begins
  rw [Reconciler.Certain, Pass.ending] at certain
  refine ⟨?_, ?_, ?_, ?_⟩
  · intro law phase outcome
    rw [outcome] at certain
    exact certain law
  · intro phase error outcome
    rw [outcome] at certain
    exact certain
  · intro phase error outcome
    rw [outcome] at certain
    exact certain
  · intro executor operation name target policy read source session final ran
    exact (executor.await_certifies _ _ _ _).meets trivial ran

namespace Simulation

namespace World

theorem cancelled_of_sleepManually {duration : Duration} {world : World}
    (interrupted : (world.sleepManually duration).1 = false) :
    (world.sleepManually duration).2.cancelled = true := by
  revert interrupted
  rw [sleepManually]
  dsimp only
  generalize (if world.isHooked false = true then world.cancel else world) = before
  cases cancelled : before.cancelled with
  | true => simp [cancelled]
  | false =>
      simp only [Bool.false_eq_true, if_false, Bool.not_eq_false']
      exact fun cancelled => cancelled

theorem cancelled_of_sleepOnTimer {duration : Duration} {world : World}
    (interrupted : (world.sleepOnTimer duration).1 = false) :
    (world.sleepOnTimer duration).2.cancelled = true := by
  revert interrupted
  rw [sleepOnTimer]
  cases cancelled : world.cancelled with
  | true => simp [cancelled]
  | false =>
      simp only [Bool.false_eq_true, if_false]
      cases world.cancelAt with
      | none => exact nofun
      | some time =>
          dsimp only
          split
          · exact fun _ => rfl
          · exact nofun

/-- The simulated outside keeps a cancellation, and sleeps to the end without one. -/
theorem environment_holdsToken : environment.HoldsToken where
  now := fun _ cancelled => cancelled
  sleep := by
    intro duration world interrupted
    cases kind : world.kind with
    | manual =>
        simp only [environment, sleep, kind] at interrupted ⊢
        exact cancelled_of_sleepManually interrupted
    | timer =>
        simp only [environment, sleep, kind] at interrupted ⊢
        exact cancelled_of_sleepOnTimer interrupted

end World

namespace Server

/-- The caller cancels while the server still changes. -/
def stops : Pass World adapter :=
  .ofEnded reconciler adapter known (.reconcile (wanted 4 "secret" "blue"))
    (world [("Describe", [found 2 "ready", { found 4 "changing" with cancels := true }]),
      ("DescribeResourceTags", [tagged "team" "blue"]),
      ("Modify", [accepted, accepted])])
    (by decide +kernel)

/-- The remote takes too long to say that it is busy. -/
def runsLate : Pass World adapter :=
  .ofEnded reconciler adapter known (.reconcile (wanted 4 "secret" "blue"))
    (world [("Describe", [found 2 "ready"]),
      ("DescribeResourceTags", [tagged "team" "blue"]),
      ("Modify", [{ busy with advance := .ofSeconds 400 }])])
    (by decide +kernel)

/-- What is read while the server is awaited. -/
def statusRead : Run World (Except RemoteError ObservedStatus) := do
  let answer ← World.environment.call (.poll .update)
    (instanceRequest "Describe" "s1")
  return answer.bind adapter.readStatus

theorem certain_server_reports_certainty :
    [stops, runsLate, retags].map (fun pass => pass.outcome.name) =
      ["cancelled", "timed_out", "update_failed"] ∧
    World.environment.cancelled stops.final.world = true ∧
    (∀ phase error, runsLate.outcome = .timedOut phase error → error.TimesOut) ∧
    (∀ phase error, retags.outcome = .failed phase error → error.IsConclusive) ∧
    ∃ name source final,
      reconciler.executor.await "await update" ready reconciler.settings.pollPolicy
          statusRead (.fresh (world [("Describe", [forbidden])])) =
        some (.error (.read name source), final) ∧
      ¬ source.IsInconclusive ∧ ¬ source.TellsMissing := by
  refine ⟨by decide +kernel, ?_, runsLate.reports_certainty.2.1,
    retags.reports_certainty.2.2.1, ?_⟩
  · exact stops.reports_certainty.1 World.environment_holdsToken .update (by decide +kernel)
  · have failed : (reconciler.executor.await "await update" ready
        reconciler.settings.pollPolicy statusRead
        (.fresh (world [("Describe", [forbidden])]))).map
        (fun ended => failsBy (fun error => error.code == "POLL_READ_FAILED") ended.1) =
        some true := by
      decide +kernel
    obtain ⟨⟨answer, final⟩, ran, failed⟩ := Option.map_eq_some_iff.1 failed
    cases answer with
    | ok status => cases failed
    | error error =>
        cases error with
        | read name source =>
            exact ⟨name, source, final, ran,
              stops.reports_certainty.2.2.2 _ _ _ _ _ _ _ _ _ ran⟩
        | _ => simp [failsBy, PollError.code] at failed

end Server

end Simulation

end ControlLoop
