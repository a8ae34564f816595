import ControlLoop.Proofs.Run
import ControlLoop.Reconciler.Step

/-!
# Footprints of the steps

What each step of a pass adds to the journal.  A call adds its own attempts and the
sleeps between them, and an answered call ends with the answered attempt.  A wait
adds status reads, and the mark of a reached target exactly when it succeeds.
-/

namespace ControlLoop

variable {World α : Type}
variable {session final : Session World} {kind : Event → Prop}

namespace Executor

variable (executor : Executor World)

/-- What the retries of a call do with the answer to an attempt. -/
def retryAfter (operation : String) (operationKind : OperationKind) (policy : RetryPolicy)
    (attempt : Run World (Except RemoteError α)) (started : Duration)
    (rounds attempts : Nat) : Except RemoteError α → Run World (Except CallError α)
  | .ok result => return .ok result
  | .error failure =>
      match executor.classifier.classify failure operationKind with
      | .nonRetryable => return .error (.nonRetryable operation failure)
      | .fatal => return .error (.fatal operation failure)
      | .retryable => do
          let elapsed := (← executor.environment.time) - started
          if policy.deadline ≤ elapsed then
            return .error (.timeout operation (attempts + 1) elapsed (some failure))
          else
            let pause ← executor.environment.pauseFor policy attempts
            if ← executor.environment.rest (min pause (policy.deadline - elapsed)) then
              executor.retryFrom operation operationKind policy attempt started rounds
                (attempts + 1)
            else return .error (.cancelled operation)

theorem retryFrom_succ (operation : String) (operationKind : OperationKind)
    (policy : RetryPolicy) (attempt : Run World (Except RemoteError α))
    (started : Duration) (rounds attempts : Nat) :
    executor.retryFrom operation operationKind policy attempt started (rounds + 1)
        attempts = (do
      if ← executor.environment.isCancelled then return .error (.cancelled operation)
      else
        let answer ← attempt
        executor.retryAfter operation operationKind policy attempt started rounds attempts
          answer) :=
  rfl

variable {executor} in
theorem retryAfter_notes {operation : String} {operationKind : OperationKind}
    {policy : RetryPolicy} {attempt : Run World (Except RemoteError α)}
    {started : Duration} {rounds attempts : Nat}
    (again : (executor.retryFrom operation operationKind policy attempt started rounds
      (attempts + 1)).Notes kind)
    (sleeps : ∀ duration completed, kind (.slept duration completed))
    (answer : Except RemoteError α) :
    (executor.retryAfter operation operationKind policy attempt started rounds attempts
      answer).Notes kind := by
  cases answer with
  | ok result => exact .pure _
  | error failure =>
      rw [retryAfter]
      cases executor.classifier.classify failure operationKind with
      | nonRetryable => exact .pure _
      | fatal => exact .pure _
      | retryable =>
          apply Run.Notes.bind executor.environment.time_notes
          intro now
          dsimp only
          split
          · exact .pure _
          · apply Run.Notes.bind (executor.environment.pauseFor_notes policy attempts)
            intro pause
            apply Run.Notes.bind (executor.environment.rest_notes sleeps _)
            intro completed
            cases completed with
            | true => exact again
            | false => exact .pure _

theorem retryFrom_notes (operation : String) (operationKind : OperationKind)
    (policy : RetryPolicy) {attempt : Run World (Except RemoteError α)}
    (started : Duration) (attemptNotes : attempt.Notes kind)
    (sleeps : ∀ duration completed, kind (.slept duration completed))
    (rounds attempts : Nat) :
    (executor.retryFrom operation operationKind policy attempt started rounds
      attempts).Notes kind := by
  induction rounds generalizing attempts with
  | zero => exact .outOfRounds
  | succ rounds ih =>
      rw [retryFrom_succ]
      apply Run.Notes.bind (executor.environment.isCancelled_notes)
      intro cancelled
      cases cancelled with
      | true => exact .pure _
      | false => exact .bind attemptNotes (retryAfter_notes (ih (attempts + 1)) sleeps)

theorem retry_notes (operation : String) (operationKind : OperationKind)
    (policy : RetryPolicy) {attempt : Run World (Except RemoteError α)}
    (attemptNotes : attempt.Notes kind)
    (sleeps : ∀ duration completed, kind (.slept duration completed)) :
    (executor.retry operation operationKind policy attempt).Notes kind :=
  .bind executor.environment.time_notes fun started =>
    executor.retryFrom_notes operation operationKind policy started attemptNotes sleeps
      executor.rounds 0

/-- What an attempt decides: a success and a failure that repeating does not help end
the retries. -/
def decision? (operation : String) (operationKind : OperationKind) :
    Except RemoteError α → Option (Except CallError α)
  | .ok result => some (.ok result)
  | .error failure =>
      match executor.classifier.classify failure operationKind with
      | .nonRetryable => some (.error (.nonRetryable operation failure))
      | .fatal => some (.error (.fatal operation failure))
      | .retryable => none

variable {executor} in
theorem decision?_eq_ok_iff {operation : String} {operationKind : OperationKind}
    {answer : Except RemoteError α} {value : α} :
    executor.decision? operation operationKind answer = some (.ok value) ↔
      answer = .ok value := by
  rcases answer with failure | given
  · rw [decision?]
    cases executor.classifier.classify failure operationKind <;> simp
  · simp [decision?]

variable {executor} in
/-- What is undecided is a failure that may be repeated. -/
theorem decision?_eq_none_iff {operation : String} {operationKind : OperationKind}
    {answer : Except RemoteError α} :
    executor.decision? operation operationKind answer = none ↔
      ∃ failure, answer = .error failure ∧
        executor.classifier.classify failure operationKind = .retryable := by
  cases answer with
  | ok result => simp [decision?]
  | error failure =>
      rw [decision?]
      cases verdict : executor.classifier.classify failure operationKind <;> simp [verdict]

variable {executor} in
/-- An answer that decides ends the retries. -/
theorem retryAfter_of_decision {operation : String} {operationKind : OperationKind}
    {policy : RetryPolicy} {attempt : Run World (Except RemoteError α)}
    {answer : Except RemoteError α} {result : Except CallError α}
    (decides : executor.decision? operation operationKind answer = some result)
    {started : Duration} {rounds attempts : Nat} :
    executor.retryAfter operation operationKind policy attempt started rounds attempts
      answer = pure result := by
  cases answer with
  | ok value =>
      cases decides
      rfl
  | error failure =>
      rw [decision?] at decides
      rw [retryAfter]
      cases verdict : executor.classifier.classify failure operationKind with
      | retryable => simp [verdict] at decides
      | nonRetryable =>
          simp only [verdict, Option.some.injEq] at decides
          rw [← decides]
      | fatal =>
          simp only [verdict, Option.some.injEq] at decides
          rw [← decides]

variable {executor} in
/-- A round finds that the caller has cancelled, or makes an attempt. -/
theorem retryFrom_cases {operation : String} {operationKind : OperationKind}
    {policy : RetryPolicy} {attempt : Run World (Except RemoteError α)}
    {started : Duration} {rounds attempts : Nat} {result : Except CallError α}
    (ran : executor.retryFrom operation operationKind policy attempt started (rounds + 1)
      attempts session = some (result, final)) :
    (executor.environment.cancelled session.world = true ∧
        result = .error (.cancelled operation) ∧ final = session) ∨
      executor.environment.cancelled session.world = false ∧
        ∃ answer answered, attempt session = some (answer, answered) ∧
          executor.retryAfter operation operationKind policy attempt started rounds attempts
            answer answered = some (result, final) := by
  obtain ⟨cancelled, middle, looked, ran⟩ := Run.bind_eq_some_iff.1 ran
  cases looked
  cases asked : executor.environment.cancelled session.world with
  | true =>
      simp only [asked, if_true] at ran
      cases ran
      exact .inl ⟨rfl, rfl, rfl⟩
  | false =>
      simp only [asked, Bool.false_eq_true, if_false] at ran
      obtain ⟨answer, answered, attempted, ran⟩ := Run.bind_eq_some_iff.1 ran
      exact .inr ⟨rfl, answer, answered, attempted, ran⟩

/-- How a round of the retries ends once its attempt is answered: with the decision of the
answer, because the deadline has passed, because the sleep is cut short, or as the next round
does. -/
inductive RoundEnds (operation : String) (operationKind : OperationKind)
    (policy : RetryPolicy) (attempt : Run World (Except RemoteError α))
    (started : Duration) (rounds attempts : Nat) (answered : Session World) :
    Except RemoteError α → Except CallError α → Session World → Prop where
  | decided {answer : Except RemoteError α} {result : Except CallError α} :
      executor.decision? operation operationKind answer = some result →
      RoundEnds operation operationKind policy attempt started rounds attempts answered
        answer result answered
  | expired {failure : RemoteError} {now : Duration} {timed : Session World} :
      executor.classifier.classify failure operationKind = .retryable →
      executor.environment.time answered = some (now, timed) →
      policy.deadline ≤ now - started →
      RoundEnds operation operationKind policy attempt started rounds attempts answered
        (.error failure)
        (.error (.timeout operation (attempts + 1) (now - started) (some failure))) timed
  | interrupted {failure : RemoteError} {now pause : Duration}
      {timed drawn rested : Session World} :
      executor.classifier.classify failure operationKind = .retryable →
      executor.environment.time answered = some (now, timed) →
      executor.environment.pauseFor policy attempts timed = some (pause, drawn) →
      executor.environment.rest (min pause (policy.deadline - (now - started))) drawn =
        some (false, rested) →
      RoundEnds operation operationKind policy attempt started rounds attempts answered
        (.error failure) (.error (.cancelled operation)) rested
  | repeated {failure : RemoteError} {now pause : Duration}
      {timed drawn rested final : Session World} {result : Except CallError α} :
      executor.classifier.classify failure operationKind = .retryable →
      executor.environment.time answered = some (now, timed) →
      now - started < policy.deadline →
      executor.environment.pauseFor policy attempts timed = some (pause, drawn) →
      executor.environment.rest (min pause (policy.deadline - (now - started))) drawn =
        some (true, rested) →
      executor.retryFrom operation operationKind policy attempt started rounds
        (attempts + 1) rested = some (result, final) →
      RoundEnds operation operationKind policy attempt started rounds attempts answered
        (.error failure) result final

variable {executor} in
theorem roundEnds_of_retryAfter {operation : String} {operationKind : OperationKind}
    {policy : RetryPolicy} {attempt : Run World (Except RemoteError α)}
    {started : Duration} {rounds attempts : Nat} {answer : Except RemoteError α}
    {answered : Session World} {result : Except CallError α}
    (ran : executor.retryAfter operation operationKind policy attempt started rounds
      attempts answer answered = some (result, final)) :
    executor.RoundEnds operation operationKind policy attempt started rounds attempts
      answered answer result final := by
  cases decided : executor.decision? operation operationKind answer with
  | some decision =>
      rw [retryAfter_of_decision decided] at ran
      cases ran
      exact .decided decided
  | none =>
      obtain ⟨failure, rfl, verdict⟩ := decision?_eq_none_iff.1 decided
      simp only [retryAfter, verdict] at ran
      rcases Run.bind_eq_some_iff.1 ran with ⟨now, timed, ticked, ran⟩
      split at ran
      next late =>
        cases ran
        exact .expired verdict ticked late
      next early =>
        rcases Run.bind_eq_some_iff.1 ran with ⟨pause, drawn, paused, ran⟩
        rcases Run.bind_eq_some_iff.1 ran with ⟨completed, rested, slept, ran⟩
        cases completed with
        | true => exact .repeated verdict ticked (Nat.not_le.1 early) paused slept ran
        | false =>
            cases ran
            exact .interrupted verdict ticked paused slept

/-- An event that leaves the retries of a call undecided: a failed attempt that may be
repeated, or a sleep. -/
def IsUndecided (operationKind : OperationKind) (event : Except RemoteError α → Event)
    (noted : Event) : Prop :=
  (∃ duration completed, noted = .slept duration completed) ∨
    ∃ failure, executor.classifier.classify failure operationKind = .retryable ∧
      noted = event (.error failure)

/-- How the retries of a call, where `event` is noted for each answer, come to their
result: after undecided events an attempt decides, or else time runs out or the caller
cancels. -/
def Concludes (operation : String) (operationKind : OperationKind)
    (event : Except RemoteError α → Event) (session final : Session World)
    (result : Except CallError α) : Prop :=
  ∃ last, Session.Adds (executor.IsUndecided operationKind event) session last ∧
    ((∃ answer, executor.decision? operation operationKind answer = some result ∧
        final.journal = event answer :: last.journal) ∨
      final.journal = last.journal ∧ ∃ error, result = .error error ∧
        (error.isTimeout = true ∨ error.isCancelled = true))

section

variable {executor} {operation : String} {operationKind : OperationKind}
variable {event : Except RemoteError α → Event} {result : Except CallError α}

theorem Concludes.after {middle : Session World}
    (undecided : Session.Adds (executor.IsUndecided operationKind event) session middle)
    (concludes : executor.Concludes operation operationKind event middle final result) :
    executor.Concludes operation operationKind event session final result := by
  rcases concludes with ⟨last, later, ends⟩
  exact ⟨last, undecided.trans later, ends⟩

/-- The first attempt decides. -/
theorem Concludes.of_decision {answer : Except RemoteError α}
    (decides : executor.decision? operation operationKind answer = some result)
    (journal : final.journal = event answer :: session.journal) :
    executor.Concludes operation operationKind event session final result :=
  ⟨session, .refl session, .inl ⟨answer, decides, journal⟩⟩

/-- Time runs out, or the caller cancels. -/
theorem Concludes.of_error {error : CallError} (journal : final.journal = session.journal)
    (givesUp : error.isTimeout = true ∨ error.isCancelled = true) :
    executor.Concludes operation operationKind event session final
      (.error error : Except CallError α) :=
  ⟨session, .refl session, .inr ⟨journal, error, rfl, givesUp⟩⟩

end

theorem retryFrom_concludes {operation : String} {operationKind : OperationKind}
    {policy : RetryPolicy} {attempt : Run World (Except RemoteError α)}
    {event : Except RemoteError α → Event} {started : Duration} {rounds attempts : Nat}
    {result : Except CallError α} (noting : attempt.NotesAnswer event)
    (ran : executor.retryFrom operation operationKind policy attempt started rounds
      attempts session = some (result, final)) :
    executor.Concludes operation operationKind event session final result := by
  induction rounds generalizing attempts session with
  | zero => cases ran
  | succ rounds ih =>
      rcases retryFrom_cases ran with ⟨-, rfl, rfl⟩ | ⟨-, answer, answered, attempted, ran⟩
      · exact .of_error rfl (.inr rfl)
      have journal := noting _ _ _ attempted
      have untilTimed {failure : RemoteError} {now : Duration} {timed : Session World}
          (failed : answer = .error failure)
          (verdict : executor.classifier.classify failure operationKind = .retryable)
          (ticked : executor.environment.time answered = some (now, timed)) :
          Session.Adds (executor.IsUndecided operationKind event) session timed := by
        have tried : executor.IsUndecided operationKind event (event answer) :=
          .inr ⟨failure, verdict, congrArg event failed⟩
        exact (Session.Adds.of_cons journal tried).trans
          (executor.environment.time_notes _ _ _ ticked)
      have untilRested {pause duration : Duration} {timed drawn rested : Session World}
          {completed : Bool}
          (paused : executor.environment.pauseFor policy attempts timed = some (pause, drawn))
          (slept : executor.environment.rest duration drawn = some (completed, rested)) :
          Session.Adds (executor.IsUndecided operationKind event) timed rested :=
        (executor.environment.pauseFor_notes policy attempts _ _ _ paused).trans
          (executor.environment.rest_notes
            (fun duration completed => .inl ⟨duration, completed, rfl⟩) _ _ _ _ slept)
      cases roundEnds_of_retryAfter ran with
      | decided decides => exact .of_decision decides journal
      | expired verdict ticked _ =>
          exact .after (untilTimed rfl verdict ticked) (.of_error rfl (.inl rfl))
      | interrupted verdict ticked paused slept =>
          have undecided := (untilTimed rfl verdict ticked).trans (untilRested paused slept)
          exact .after undecided (.of_error rfl (.inr rfl))
      | repeated verdict ticked _ paused slept ran =>
          have undecided := (untilTimed rfl verdict ticked).trans (untilRested paused slept)
          exact .after undecided (ih ran)

theorem retry_concludes {operation : String} {operationKind : OperationKind}
    {policy : RetryPolicy} {attempt : Run World (Except RemoteError α)}
    {event : Except RemoteError α → Event} {result : Except CallError α}
    (noting : attempt.NotesAnswer event)
    (ran : executor.retry operation operationKind policy attempt session =
      some (result, final)) :
    executor.Concludes operation operationKind event session final result := by
  rcases Run.bind_eq_some_iff.1 ran with ⟨started, middle, ticked, ran⟩
  exact .after (executor.environment.time_notes _ _ _ ticked)
    (executor.retryFrom_concludes noting ran)

/-- Unless the caller has cancelled, the retries of a call begin with an attempt. -/
theorem retryFrom_begins {operation : String} {operationKind : OperationKind}
    {policy : RetryPolicy} {attempt : Run World (Except RemoteError α)}
    {started : Duration} {rounds attempts : Nat} {result : Except CallError α}
    (attemptNotes : attempt.Notes kind)
    (sleeps : ∀ duration completed, kind (.slept duration completed))
    (ran : executor.retryFrom operation operationKind policy attempt started rounds
      attempts session = some (result, final)) :
    (executor.environment.cancelled session.world = true ∧
        result = .error (.cancelled operation) ∧ final = session) ∨
      executor.environment.cancelled session.world = false ∧
        ∃ answer answered, attempt session = some (answer, answered) ∧
          Session.Adds kind answered final := by
  cases rounds with
  | zero => cases ran
  | succ rounds =>
      rcases retryFrom_cases ran with
        stopped | ⟨asked, answer, answered, attempted, ran⟩
      · exact .inl stopped
      · have later := executor.retryFrom_notes operation operationKind policy started
          attemptNotes sleeps rounds (attempts + 1)
        exact .inr ⟨asked, answer, answered, attempted,
          retryAfter_notes later sleeps answer _ _ _ ran⟩

/-- What a wait does with the answer to a status read. -/
def awaitAfter (operation : String) (target : Target) (policy : PollPolicy)
    (read : Run World (Except RemoteError ObservedStatus)) (started : Duration)
    (rounds polls : Nat) (answer : Except CallError ObservedStatus) :
    Run World (Except PollError FinalStatus) := do
  let elapsed := (← executor.environment.time) - started
  match statusOf operation (polls + 1) elapsed answer with
  | .error failure => return .error failure
  | .ok status =>
      match target.evaluate status with
      | .reached => return .ok ⟨status, polls + 1, elapsed⟩
      | .failed status => return .error (.terminalFailure operation status)
      | .pending =>
          if policy.deadline ≤ elapsed then
            return .error (.timeout operation (polls + 1) elapsed (some status.text))
          else if ← executor.environment.rest
              (min policy.interval (policy.deadline - elapsed)) then
            executor.awaitFrom operation target policy read started rounds (polls + 1)
          else return .error (.cancelled operation)

theorem awaitFrom_succ (operation : String) (target : Target) (policy : PollPolicy)
    (read : Run World (Except RemoteError ObservedStatus)) (started : Duration)
    (rounds polls : Nat) :
    executor.awaitFrom operation target policy read started (rounds + 1) polls = (do
      if ← executor.environment.isCancelled then return .error (.cancelled operation)
      else
        let now ← executor.environment.time
        let answer ← executor.retry operation .read
          (policy.read.clampedTo (policy.deadline - (now - started))) read
        executor.awaitAfter operation target policy read started rounds polls answer) :=
  rfl

variable {executor} in
theorem awaitAfter_notes {operation : String} {target : Target} {policy : PollPolicy}
    {read : Run World (Except RemoteError ObservedStatus)} {started : Duration}
    {rounds polls : Nat}
    (again : (executor.awaitFrom operation target policy read started rounds
      (polls + 1)).Notes kind)
    (sleeps : ∀ duration completed, kind (.slept duration completed))
    (answer : Except CallError ObservedStatus) :
    (executor.awaitAfter operation target policy read started rounds polls answer).Notes
      kind := by
  apply Run.Notes.bind executor.environment.time_notes
  intro later
  dsimp only
  cases statusOf operation (polls + 1) (later - started) answer with
  | error failure => exact .pure _
  | ok status =>
      dsimp only
      cases target.evaluate status with
      | reached => exact .pure _
      | failed status => exact .pure _
      | pending =>
          dsimp only
          split
          · exact .pure _
          · apply Run.Notes.bind (executor.environment.rest_notes sleeps _)
            intro completed
            cases completed with
            | true => exact again
            | false => exact .pure _

theorem awaitFrom_notes (operation : String) (target : Target) (policy : PollPolicy)
    {read : Run World (Except RemoteError ObservedStatus)} (started : Duration)
    (readNotes : read.Notes kind)
    (sleeps : ∀ duration completed, kind (.slept duration completed))
    (rounds polls : Nat) :
    (executor.awaitFrom operation target policy read started rounds polls).Notes
      kind := by
  induction rounds generalizing polls with
  | zero => exact .outOfRounds
  | succ rounds ih =>
      rw [awaitFrom_succ]
      apply Run.Notes.bind (executor.environment.isCancelled_notes)
      intro cancelled
      cases cancelled with
      | true => exact .pure _
      | false =>
          apply Run.Notes.bind executor.environment.time_notes
          intro now
          exact .bind (executor.retry_notes _ _ _ readNotes sleeps)
            (awaitAfter_notes (ih (polls + 1)) sleeps)

theorem await_notes (operation : String) (target : Target) (policy : PollPolicy)
    {read : Run World (Except RemoteError ObservedStatus)}
    (readNotes : read.Notes kind)
    (sleeps : ∀ duration completed, kind (.slept duration completed)) :
    (executor.await operation target policy read).Notes kind :=
  .bind executor.environment.time_notes fun started =>
    executor.awaitFrom_notes operation target policy started readNotes sleeps
      executor.rounds 0

/-- Unless the caller has cancelled, a wait begins with a read of the status; if that does
not tell a status, the wait has failed. -/
theorem awaitFrom_begins {operation : String} {target : Target} {policy : PollPolicy}
    {read : Run World (Except RemoteError ObservedStatus)} {started : Duration}
    {rounds polls : Nat} {result : Except PollError FinalStatus}
    (readNotes : read.Notes kind)
    (sleeps : ∀ duration completed, kind (.slept duration completed))
    (ran : executor.awaitFrom operation target policy read started rounds polls session =
      some (result, final)) :
    (executor.environment.cancelled session.world = true ∧
        result = .error (.cancelled operation) ∧ final = session) ∨
      executor.environment.cancelled session.world = false ∧
        ∃ now timed answer answered, executor.environment.time session = some (now, timed) ∧
          executor.retry operation .read
              (policy.read.clampedTo (policy.deadline - (now - started))) read timed =
            some (answer, answered) ∧
          Session.Adds kind answered final ∧
          (∀ error, answer = .error error → error.isNotFound = false →
            result.isOk = false) := by
  cases rounds with
  | zero => cases ran
  | succ rounds =>
      obtain ⟨cancelled, middle, looked, ran⟩ := Run.bind_eq_some_iff.1 ran
      cases looked
      cases asked : executor.environment.cancelled session.world with
      | true =>
          simp only [asked, if_true] at ran
          cases ran
          exact .inl ⟨rfl, rfl, rfl⟩
      | false =>
          simp only [asked, Bool.false_eq_true, if_false] at ran
          obtain ⟨now, timed, ticked, ran⟩ := Run.bind_eq_some_iff.1 ran
          obtain ⟨answer, answered, retried, ran⟩ := Run.bind_eq_some_iff.1 ran
          refine .inr ⟨rfl, now, timed, answer, answered, ticked, retried, ?_, ?_⟩
          · have later := executor.awaitFrom_notes operation target policy started readNotes
              sleeps rounds (polls + 1)
            exact awaitAfter_notes later sleeps answer _ _ _ ran
          · rintro error rfl found
            obtain ⟨later, clocked, ticked', ran⟩ := Run.bind_eq_some_iff.1 ran
            simp only [statusOf, found, Bool.false_eq_true, if_false] at ran
            cases ran
            rfl

/-- A wait that reaches its target has attempted to read the status. -/
theorem gains_of_await_ok {operation : String} {target : Target} {policy : PollPolicy}
    {read : Run World (Except RemoteError ObservedStatus)} {reads : Event → Prop}
    {status : FinalStatus} (attempts : ∀ session answer final,
      read session = some (answer, final) → Session.Gains reads session final)
    (readNotes : read.Notes kind)
    (sleeps : ∀ duration completed, kind (.slept duration completed))
    (ran : executor.await operation target policy read session =
      some (.ok status, final)) :
    Session.Gains reads session final := by
  have quietly {before after : Session World} {now : Duration}
      (ticked : executor.environment.time before = some (now, after)) :
      Session.Adds kind before after :=
    executor.environment.time_notes _ _ _ ticked
  obtain ⟨started, opened, ticked, ran⟩ := Run.bind_eq_some_iff.1 ran
  apply Session.Gains.after (quietly ticked)
  rcases executor.awaitFrom_begins readNotes sleeps ran with
    ⟨-, failed, -⟩ | ⟨-, now, timed, answer, answered, ticked, retried, later, fails⟩
  · cases failed
  · apply Session.Gains.after (quietly ticked)
    obtain ⟨began, begun, clocked, retried⟩ := Run.bind_eq_some_iff.1 retried
    apply Session.Gains.after (quietly clocked)
    rcases executor.retryFrom_begins readNotes sleeps retried with
      ⟨-, rfl, -⟩ | ⟨-, given, attempted, tried, more⟩
    · -- a read that was cancelled tells no status
      cases fails _ rfl rfl
    · exact ((attempts _ _ _ tried).before more).before later

/-! ## Tags -/

theorem describeTags_notes (resource : TagResource) (policy : RetryPolicy) :
    (executor.describeTags resource policy).Notes Event.IsTagRead :=
  .bind
    (executor.retry_notes _ _ policy
      (Environment.callTags_notes resource .describe _ fun _ => rfl)
      fun _ _ => trivial)
    fun _ => .pure _

theorem replaceTags_notes (resource : TagResource) (tags : TagSet)
    (policy : RetryPolicy)
    (made : ∀ failure, kind (.tagged resource (.replace tags) failure))
    (sleeps : ∀ duration completed, kind (.slept duration completed)) :
    (executor.replaceTags resource tags policy).Notes kind := by
  rw [replaceTags]
  split
  · exact .pure _
  · exact .bind
      (executor.retry_notes _ _ policy (Environment.callTags_notes resource _ _ made) sleeps)
      fun _ => .pure _

theorem deleteTags_notes (resource : TagResource) (replaced : Nat) (keys : KeySet)
    (policy : RetryPolicy)
    (made : ∀ failure, kind (.tagged resource (.delete keys) failure))
    (sleeps : ∀ duration completed, kind (.slept duration completed)) :
    (executor.deleteTags resource replaced keys policy).Notes kind := by
  rw [deleteTags]
  split
  · exact .pure _
  · exact .bind
      (executor.retry_notes _ _ policy (Environment.callTags_notes resource _ _ made) sleeps)
      fun _ => .pure _

theorem syncTags_notes (resource : TagResource) (desired observed : TagSet)
    (policy : RetryPolicy)
    (replaces : ∀ failure,
      kind (.tagged resource (.replace (TagDelta.between desired observed).toReplace) failure))
    (deletes : ∀ failure,
      kind (.tagged resource (.delete (TagDelta.between desired observed).toDelete) failure))
    (sleeps : ∀ duration completed, kind (.slept duration completed)) :
    (executor.syncTags resource desired observed policy).Notes kind := by
  rw [syncTags]
  split
  · exact .pure _
  · refine .bind ?_ fun answer => .pure _
    rw [applyTags]
    apply Run.Notes.bind (executor.replaceTags_notes resource _ policy replaces sleeps)
    intro answer
    cases answer with
    | error error => exact .pure _
    | ok done => exact executor.deleteTags_notes resource _ _ policy deletes sleeps

end Executor

namespace Reconciler

variable (reconciler : Reconciler World)

/-! ## Calls -/

theorem call_notes (purpose : Purpose) (request : Request) :
    (reconciler.call purpose request).Notes (Event.IsCall purpose) :=
  reconciler.executor.retry_notes _ _ _
    (reconciler.executor.environment.call_notes purpose request) fun _ _ => trivial

theorem call_concludes {purpose : Purpose} {request : Request}
    {result : Except CallError Json}
    (ran : reconciler.call purpose request session = some (result, final)) :
    reconciler.executor.Concludes request.action purpose.kind (.called purpose request)
      session final result :=
  reconciler.executor.retry_concludes
    (reconciler.executor.environment.call_notesAnswer purpose request) ran

/-- The journal of an answered call ends with the answered attempt. -/
theorem called_of_call_ok {purpose : Purpose} {request : Request} {answer : Json}
    (ran : reconciler.call purpose request session = some (.ok answer, final)) :
    ∃ earlier, final.journal = .called purpose request (.ok answer) :: earlier := by
  rcases reconciler.call_concludes ran with
    ⟨last, -, ⟨given, decides, journal⟩ | ⟨-, error, failed, -⟩⟩
  · rw [Executor.decision?_eq_ok_iff] at decides
    exact ⟨last.journal, decides ▸ journal⟩
  · cases failed

theorem callAll_notes (purpose : Purpose) (requests : List Request) :
    (reconciler.callAll purpose requests).Notes (Event.IsCall purpose) := by
  induction requests with
  | nil => exact .pure _
  | cons request requests ih =>
      apply Run.Notes.bind (reconciler.call_notes purpose request)
      intro answer
      cases answer with
      | error error => exact .pure _
      | ok answer => exact ih

/-! ## Reads, waits and tags -/

variable (adapter : Adapter) (record : Record) (id : Identifier)

/-- How a read of a resource ends. -/
inductive Reads (purpose : Purpose) (session : Session World) :
    Except PassError (Option ObservedState) → Session World → Prop where
  | failed {error : CallError} {final : Session World} :
      reconciler.call purpose (adapter.readRequest id) session =
        some (.error error, final) →
      error.isNotFound = false → Reads purpose session (.error (.call error)) final
  | missing {error : CallError} {final : Session World} :
      reconciler.call purpose (adapter.readRequest id) session =
        some (.error error, final) →
      error.isNotFound = true → Reads purpose session (.ok none) final
  | unclear {answer : Json} {source : RemoteError} {final : Session World} :
      reconciler.call purpose (adapter.readRequest id) session =
        some (.ok answer, final) →
      adapter.readState answer = .error source →
      Reads purpose session
        (.error (.response (adapter.readRequest id).action source)) final
  | gone {answer : Json} {final : Session World} :
      reconciler.call purpose (adapter.readRequest id) session =
        some (.ok answer, final) →
      adapter.readState answer = .ok none → Reads purpose session (.ok none) final
  | untagged {answer : Json} {observed : ObservedState} {final : Session World} :
      reconciler.call purpose (adapter.readRequest id) session =
        some (.ok answer, final) →
      adapter.readState answer = .ok (some observed) → adapter.tagResource id = none →
      Reads purpose session (.ok (some observed)) final
  | tagged {answer : Json} {observed : ObservedState} {resource : TagResource}
      {tags : Except TagError TagSet} {middle final : Session World} :
      reconciler.call purpose (adapter.readRequest id) session =
        some (.ok answer, middle) →
      adapter.readState answer = .ok (some observed) →
      adapter.tagResource id = some resource →
      reconciler.executor.describeTags resource reconciler.settings.readPolicy middle =
        some (tags, final) →
      Reads purpose session
        ((tags.mapError .tags).map fun tags => some { observed with tags }) final

theorem reads_of_read {purpose : Purpose}
    {result : Except PassError (Option ObservedState)}
    (ran : reconciler.read adapter id purpose session = some (result, final)) :
    reconciler.Reads adapter id purpose session result final := by
  rw [read] at ran
  rcases Run.bind_eq_some_iff.1 ran with ⟨answer, middle, called, ran⟩
  cases answer with
  | error error =>
      cases missing : error.isNotFound with
      | true =>
          simp only [missing, if_true] at ran
          cases ran
          exact .missing called missing
      | false =>
          simp only [missing, Bool.false_eq_true, if_false] at ran
          cases ran
          exact .failed called missing
  | ok answer =>
      cases parsed : adapter.readState answer with
      | error source =>
          simp only [parsed] at ran
          cases ran
          exact .unclear called parsed
      | ok found =>
          cases found with
          | none =>
              simp only [parsed] at ran
              cases ran
              exact .gone called parsed
          | some observed =>
              simp only [parsed] at ran
              cases place : adapter.tagResource id with
              | none =>
                  simp only [place] at ran
                  cases ran
                  exact .untagged called parsed place
              | some resource =>
                  simp only [place] at ran
                  rcases Run.bind_eq_some_iff.1 ran with ⟨tags, last, described, ran⟩
                  cases tags with
                  | error error =>
                      cases ran
                      exact .tagged called parsed place described
                  | ok tags =>
                      cases ran
                      exact .tagged called parsed place described

theorem read_notes (purpose : Purpose) :
    (reconciler.read adapter id purpose).Notes fun event =>
      event.IsCall purpose ∨ event.IsTagRead := by
  intro session result final ran
  have calls {answer : Except CallError Json} {middle : Session World}
      (called : reconciler.call purpose (adapter.readRequest id) session =
        some (answer, middle)) :
      Session.Adds (fun event => event.IsCall purpose ∨ event.IsTagRead) session middle :=
    ((reconciler.call_notes purpose _).mono fun _ => .inl) _ _ _ called
  cases reconciler.reads_of_read adapter id ran with
  | failed called _ => exact calls called
  | missing called _ => exact calls called
  | unclear called _ => exact calls called
  | gone called _ => exact calls called
  | untagged called _ _ => exact calls called
  | tagged called _ _ described =>
      refine (calls called).trans ?_
      exact ((reconciler.executor.describeTags_notes _ _).mono fun _ => .inr) _ _ _ described

/-- A read that finds the resource has been answered. -/
theorem called_of_read_ok {purpose : Purpose} {observed : ObservedState}
    (ran : reconciler.read adapter id purpose session =
      some (.ok (some observed), final)) :
    ∃ answer, Event.called purpose (adapter.readRequest id) (.ok answer) ∈
      final.journal := by
  generalize found : (.ok (some observed) : Except PassError _) = result at ran
  cases reconciler.reads_of_read adapter id ran with
  | @untagged answer _ _ called _ _ =>
      rcases reconciler.called_of_call_ok called with ⟨earlier, journal⟩
      exact ⟨answer, journal ▸ List.mem_cons_self⟩
  | @tagged answer _ _ _ _ _ called _ _ described =>
      rcases reconciler.called_of_call_ok called with ⟨earlier, journal⟩
      obtain ⟨reads, grown, -⟩ :=
        reconciler.executor.describeTags_notes _ _ _ _ _ described
      refine ⟨answer, ?_⟩
      rw [grown, journal]
      exact List.mem_append_right _ List.mem_cons_self
  | _ => cases found

theorem applyTags_notes :
    (reconciler.applyTags adapter record id).Notes Event.IsTagChange := by
  rw [applyTags]
  cases adapter.tagResource id with
  | none => exact .pure _
  | some resource =>
      apply Run.Notes.bind (reconciler.executor.syncTags_notes resource _ _ _
        (fun _ => nofun) (fun _ => nofun) fun _ _ => trivial)
      intro answer
      cases answer with
      | error error => exact .pure _
      | ok delta => exact .pure _

/-- What a wait adds to the journal: status reads and, exactly when it succeeds, the
mark of the reached target as the latest event. -/
theorem journal_of_await {phase : Phase} {answer : Except PassError Unit}
    (ran : reconciler.await adapter id phase session = some (answer, final)) :
    ∃ reads : List Event, (∀ event ∈ reads, event.IsCall (.poll phase)) ∧
      final.journal =
        (if answer.isOk then [Event.settled phase] else []) ++ reads ++
          session.journal := by
  rcases Run.bind_eq_some_iff.1 ran with ⟨waited, middle, ranWait, ran⟩
  have reading : Run.Notes (do
      let answer ← reconciler.executor.environment.call (.poll phase)
        (adapter.readRequest id)
      return answer.bind adapter.readStatus) (Event.IsCall (.poll phase)) :=
    .bind (reconciler.executor.environment.call_notes _ _) fun _ => .pure _
  obtain ⟨reads, grown, areReads⟩ :=
    reconciler.executor.await_notes _ _ _ reading (fun _ _ => trivial) _ _ _ ranWait
  refine ⟨reads, areReads, ?_⟩
  cases waited with
  | error error =>
      cases ran
      simpa [Except.isOk, Except.toBool] using grown
  | ok status =>
      rcases Run.bind_eq_some_iff.1 ran with ⟨done, last, ranNote, returned⟩
      cases ranNote
      cases returned
      simp [Except.isOk, Except.toBool, grown]

/-- A wait that succeeds ends with the mark of the reached target. -/
theorem settled_of_await_ok {phase : Phase}
    (ran : reconciler.await adapter id phase session = some (.ok (), final)) :
    ∃ earlier, final.journal = .settled phase :: earlier := by
  rcases reconciler.journal_of_await adapter id ran with ⟨reads, -, journal⟩
  exact ⟨reads ++ session.journal, journal⟩

end Reconciler

end ControlLoop
