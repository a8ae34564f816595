import ControlLoop.Proofs.Footprint
import ControlLoop.Simulation.Server

/-!
# Status reads that decide a wait

A wait reads the status until a status decides it, and then ends with that status, however
late it is and whether or not the caller has cancelled by then.  `Executor.MakesRead` tells
which status reads a wait makes, with the retries inside a read as part of it, and does so
for waits that go on as well as for those that have ended.

Main statement: `Executor.await_decidedByReads`.
-/

namespace ControlLoop

/-! ## Statuses -/

namespace Executor

/-- The status that a status read comes to, if it comes to one.  A resource that is not
found is absent. -/
def status? : Except CallError ObservedStatus → Option ObservedStatus
  | .ok status => some status
  | .error error => if error.isNotFound then some .absent else none

theorem statusOf_eq_ok_iff {operation : String} {polls : Nat} {elapsed : Duration}
    {answer : Except CallError ObservedStatus} {status : ObservedStatus} :
    statusOf operation polls elapsed answer = .ok status ↔ status? answer = some status := by
  cases answer with
  | ok read => simp [statusOf, status?]
  | error error =>
      cases missing : error.isNotFound <;> simp [statusOf, status?, missing]

end Executor

theorem Target.evaluate_eq_failed_iff {target : Target} {status : ObservedStatus}
    {name : String} :
    target.evaluate status = .failed name ↔
      status = .present name ∧ target.failures.contains name = true := by
  constructor
  · intro failed
    cases status with
    | absent => cases waits : target.absentIsTarget <;> simp [evaluate, waits] at failed
    | present found =>
        cases failure : target.failures.contains found with
        | true =>
            have same : found = name := by simpa [evaluate, failure] using failed
            subst same
            exact ⟨rfl, failure⟩
        | false =>
            rw [evaluate, if_neg (Bool.eq_false_iff.1 failure)] at failed
            split at failed
            · cases failed
            · split at failed <;> cases failed
  · rintro ⟨rfl, failure⟩
    simp [evaluate, failure]

example : ((Target.ofStatuses ["ready"]).withFailures ["ready"]).evaluate (.present "ready") =
    .failed "ready" := by
  decide +kernel

/-- What a target waits for.  A failure status never is, even if the target names it as
well. -/
inductive Target.IsReachedBy (target : Target) : ObservedStatus → Prop
  /-- The target waits for absence. -/
  | absent : target.absentIsTarget = true → IsReachedBy target .absent
  /-- The status is one of the target. -/
  | named {name : String} : target.failures.contains name = false →
      target.statuses.contains name = true → IsReachedBy target (.present name)
  /-- The target names no status and does not wait for absence. -/
  | existing {name : String} : target.failures.contains name = false →
      (∀ other, target.statuses.contains other = false) → target.absentIsTarget = false →
      IsReachedBy target (.present name)

theorem Target.evaluate_eq_reached_iff {target : Target} {status : ObservedStatus} :
    target.evaluate status = .reached ↔ target.IsReachedBy status := by
  have namesNone : target.statuses.isEmpty = true ↔
      ∀ other, target.statuses.contains other = false := by
    simp [KeyMap.isEmpty_iff, KeyMap.contains]
  constructor
  · intro reached
    cases status with
    | absent =>
        cases waits : target.absentIsTarget with
        | true => exact .absent waits
        | false => simp [evaluate, waits] at reached
    | present name =>
        cases failure : target.failures.contains name with
        | true => simp [evaluate, failure] at reached
        | false =>
            cases named : target.statuses.contains name with
            | true => exact .named failure named
            | false =>
                have existence : target.statuses.isEmpty = true ∧
                    target.absentIsTarget = false := by
                  simpa [evaluate, failure, named] using reached
                exact .existing failure (namesNone.1 existence.1) existence.2
  · intro reached
    cases reached with
    | absent waits => simp [evaluate, waits]
    | named noFailure named => simp [evaluate, noFailure, named]
    | existing noFailure none enough =>
        simp [evaluate, noFailure, none _, namesNone.2 none, enough]

/-- How a wait ends that is decided by a status, read at a position.  A failure status is a
failure even if it is a target status as well. -/
inductive Target.Concludes (target : Target) (operation : String) (position : Nat) :
    ObservedStatus → Except PollError FinalStatus → Prop
  | reached {status : ObservedStatus} {elapsed : Duration} : target.IsReachedBy status →
      Concludes target operation position status (.ok ⟨status, position, elapsed⟩)
  | failed {name : String} : target.failures.contains name = true →
      Concludes target operation position (.present name)
        (.error (.terminalFailure operation name))

/-! ## Status reads -/

namespace Executor

variable {World : Type}

section

variable (executor : Executor World) (operation : String) (target : Target)
variable (policy : PollPolicy) (read : Run World (Except RemoteError ObservedStatus))

/-- At a session, a wait that began when the clock showed `started` reads the status, within
the time that is left and unless the caller has cancelled, and the read comes to an
answer. -/
def Polls (started : Duration) (session : Session World)
    (answer : Except CallError ObservedStatus) (answered : Session World) : Prop :=
  executor.environment.cancelled session.world = false ∧
    ∃ now timed, executor.environment.time session = some (now, timed) ∧
      executor.retry operation .read
          (policy.read.clampedTo (policy.deadline - (now - started))) read timed =
        some (answer, answered)

/-- A wait comes to a session, after so many status reads that left it undecided: after each
of them it slept. -/
inductive ComesTo (started : Duration) (begun : Session World) : Nat → Session World → Prop
  | begin : ComesTo started begun 0 begun
  | again {polls : Nat} {session answered timed rested : Session World}
      {answer : Except CallError ObservedStatus} {status : ObservedStatus} {now : Duration} :
      ComesTo started begun polls session →
      executor.Polls operation policy read started session answer answered →
      status? answer = some status → target.evaluate status = .pending →
      executor.environment.time answered = some (now, timed) →
      now - started < policy.deadline →
      executor.environment.rest (min policy.interval (policy.deadline - (now - started)))
          timed =
        some (true, rested) →
      ComesTo started begun (polls + 1) rested

/-- A wait makes a status read, whose position is counted from one. -/
def MakesRead (opening : Session World) (position : Nat)
    (answer : Except CallError ObservedStatus) (answered : Session World) : Prop :=
  ∃ started begun earlier session,
    executor.environment.time opening = some (started, begun) ∧
      executor.ComesTo operation target policy read started begun earlier session ∧
      executor.Polls operation policy read started session answer answered ∧
      position = earlier + 1

end

variable {executor : Executor World} {operation : String} {target : Target}
variable {policy : PollPolicy} {read : Run World (Except RemoteError ObservedStatus)}
variable {started : Duration} {begun session answered opening final : Session World}
variable {answer : Except CallError ObservedStatus} {status : ObservedStatus}
variable {result : Except PollError FinalStatus} {rounds polls position : Nat}

theorem Polls.unique {other : Except CallError ObservedStatus} {last : Session World}
    (one : executor.Polls operation policy read started session answer answered)
    (same : executor.Polls operation policy read started session other last) :
    answer = other ∧ answered = last := by
  obtain ⟨-, now, timed, ticked, retried⟩ := one
  obtain ⟨-, now', timed', ticked', retried'⟩ := same
  cases ticked.symm.trans ticked'
  cases retried.symm.trans retried'
  exact ⟨rfl, rfl⟩

theorem ComesTo.unique {other : Session World}
    (one : executor.ComesTo operation target policy read started begun polls session)
    (same : executor.ComesTo operation target policy read started begun polls other) :
    session = other := by
  induction one generalizing other with
  | begin =>
      cases same
      rfl
  | again _ polled _ _ ticked _ slept ih =>
      cases same with
      | again came polled' _ _ ticked' _ slept' =>
          cases ih came
          cases (polled.unique polled').2
          cases ticked.symm.trans ticked'
          cases slept.symm.trans slept'
          rfl

/-- A wait goes on only after status reads that left it undecided. -/
theorem ComesTo.undecided {later : Nat}
    (came : executor.ComesTo operation target policy read started begun later session)
    (before : polls < later) :
    ∃ earlier answer answered status,
      executor.ComesTo operation target policy read started begun polls earlier ∧
        executor.Polls operation policy read started earlier answer answered ∧
        status? answer = some status ∧ target.evaluate status = .pending := by
  induction came with
  | begin => cases before
  | again came polled told pending _ _ _ ih =>
      rcases Nat.lt_succ_iff_lt_or_eq.1 before with less | rfl
      · exact ih less
      · exact ⟨_, _, _, _, came, polled, told, pending⟩

/-! ## Rounds of a wait -/

theorem awaitFrom_of_polls
    (polled : executor.Polls operation policy read started session answer answered) :
    executor.awaitFrom operation target policy read started (rounds + 1) polls session =
      executor.awaitAfter operation target policy read started rounds polls answer
        answered := by
  obtain ⟨asked, now, timed, ticked, retried⟩ := polled
  have looked : executor.environment.isCancelled session = some (false, session) := by
    rw [← asked]
    rfl
  rw [awaitFrom_succ, Run.bind_of_eq_some looked]
  simp only [Bool.false_eq_true, if_false]
  rw [Run.bind_of_eq_some ticked, Run.bind_of_eq_some retried]

/-- A round finds that the caller has cancelled, or reads the status. -/
theorem awaitFrom_cases
    (ran : executor.awaitFrom operation target policy read started (rounds + 1) polls
      session = some (result, final)) :
    result = .error (.cancelled operation) ∧ final = session ∨
      ∃ answer answered,
        executor.Polls operation policy read started session answer answered ∧
          executor.awaitAfter operation target policy read started rounds polls answer
            answered = some (result, final) := by
  obtain ⟨cancelled, middle, looked, ran⟩ := Run.bind_eq_some_iff.1 ran
  cases looked
  cases asked : executor.environment.cancelled session.world with
  | true =>
      simp only [asked, if_true] at ran
      cases ran
      exact .inl ⟨rfl, rfl⟩
  | false =>
      simp only [asked, Bool.false_eq_true, if_false] at ran
      obtain ⟨now, timed, ticked, ran⟩ := Run.bind_eq_some_iff.1 ran
      obtain ⟨answer, answered, retried, ran⟩ := Run.bind_eq_some_iff.1 ran
      exact .inr ⟨answer, answered, ⟨asked, now, timed, ticked, retried⟩, ran⟩

/-- A round that leaves the wait undecided is followed by the next one. -/
theorem awaitAfter_of_pending {now : Duration} {timed rested : Session World}
    (told : status? answer = some status) (pending : target.evaluate status = .pending)
    (ticked : executor.environment.time answered = some (now, timed))
    (early : now - started < policy.deadline)
    (slept : executor.environment.rest
        (min policy.interval (policy.deadline - (now - started))) timed =
      some (true, rested)) :
    executor.awaitAfter operation target policy read started rounds polls answer answered =
      executor.awaitFrom operation target policy read started rounds (polls + 1) rested := by
  rw [awaitAfter, Run.bind_of_eq_some ticked]
  simp only [statusOf_eq_ok_iff.2 told, pending, if_neg (Nat.not_le.2 early)]
  rw [Run.bind_of_eq_some slept]
  rfl

/-- A round whose status read decides is the last one. -/
theorem awaitAfter_of_decision (told : status? answer = some status)
    (decides : target.evaluate status ≠ .pending) :
    ∃ result final,
      executor.awaitAfter operation target policy read started rounds polls answer
          answered = some (result, final) ∧
        target.Concludes operation (polls + 1) status result ∧
        final.journal = answered.journal := by
  have ticked : executor.environment.time answered =
    some ((executor.environment.now answered.world).1,
      { answered with world := (executor.environment.now answered.world).2 }) := rfl
  rw [awaitAfter, Run.bind_of_eq_some ticked]
  simp only [statusOf_eq_ok_iff.2 told]
  cases verdict : target.evaluate status with
  | pending => exact absurd verdict decides
  | reached => exact ⟨_, _, rfl, .reached (Target.evaluate_eq_reached_iff.1 verdict), rfl⟩
  | failed name =>
      obtain ⟨rfl, failure⟩ := Target.evaluate_eq_failed_iff.1 verdict
      exact ⟨_, _, rfl, .failed failure, rfl⟩

/-- A wait continues from each session that it comes to. -/
theorem ComesTo.awaitFrom_eq
    (came : executor.ComesTo operation target policy read started begun polls session) :
    executor.awaitFrom operation target policy read started (rounds + polls) 0 begun =
      executor.awaitFrom operation target policy read started rounds polls session := by
  -- the session before the last one is come to with one more round to go
  induction came generalizing rounds with
  | begin => rfl
  | @again polls _ _ _ _ _ _ _ _ polled told pending ticked early slept ih =>
      have oneMore : rounds + (polls + 1) = rounds + 1 + polls := by lia
      rw [oneMore, ih, awaitFrom_of_polls polled,
        awaitAfter_of_pending told pending ticked early slept]

/-! ## Decisions -/

/-- The results of a wait that come from a status that decides it. -/
def IsDecision : Except PollError FinalStatus → Prop
  | .ok _ => True
  | .error (.terminalFailure _ _) => True
  | .error _ => False

/-- A status read that fails for good decides nothing. -/
theorem not_isDecision_of_statusOf {elapsed : Duration} {failure : PollError}
    (failed : statusOf operation polls elapsed answer = .error failure) :
    ¬ IsDecision (.error failure) := by
  cases answer with
  | ok status => cases failed
  | error error =>
      cases missing : error.isNotFound with
      | true => simp [statusOf, missing] at failed
      | false =>
          simp only [statusOf, missing, Bool.false_eq_true, if_false,
            Except.error.injEq] at failed
          rw [← failed]
          cases error <;> exact id

/-- After a status read, nothing was noted but perhaps a sleep that was cut short. -/
def Closes (answered final : Session World) : Prop :=
  final.journal = answered.journal ∨
    ∃ duration, final.journal = .slept duration false :: answered.journal

/-- A round comes to the next one, or it ends the wait with its status read; it ends it with
a decision only if the status read decides. -/
theorem awaitAfter_cases
    (came : executor.ComesTo operation target policy read started begun polls session)
    (polled : executor.Polls operation policy read started session answer answered)
    (ran : executor.awaitAfter operation target policy read started rounds polls answer
      answered = some (result, final)) :
    (∃ rested,
      executor.ComesTo operation target policy read started begun (polls + 1) rested ∧
        executor.awaitFrom operation target policy read started rounds (polls + 1) rested =
          some (result, final)) ∨
    Closes answered final ∧
      (IsDecision result → ∃ status, status? answer = some status ∧
        target.Concludes operation (polls + 1) status result ∧
        final.journal = answered.journal) := by
  obtain ⟨now, timed, ticked, after⟩ := Run.bind_eq_some_iff.1 ran
  have journal : timed.journal = answered.journal := by
    cases ticked
    rfl
  cases told : statusOf operation (polls + 1) (now - started) answer with
  | error failure =>
      rw [told] at after
      cases after
      exact .inr ⟨.inl journal, fun decision =>
        absurd decision (not_isDecision_of_statusOf told)⟩
  | ok status =>
      rw [told] at after
      have found := statusOf_eq_ok_iff.1 told
      by_cases pending : target.evaluate status = .pending
      · simp only [pending] at after
        split at after
        · cases after
          exact .inr ⟨.inl journal, False.elim⟩
        next early =>
          obtain ⟨completed, rested, slept, after⟩ := Run.bind_eq_some_iff.1 after
          cases completed with
          | false =>
              have noted := (Environment.rest_journal slept).trans
                (congrArg (Event.slept _ false :: ·) journal)
              cases after
              exact .inr ⟨.inr ⟨_, noted⟩, False.elim⟩
          | true =>
              exact .inl ⟨rested, .again came polled found pending ticked
                (Nat.not_le.1 early) slept, after⟩
      · obtain ⟨result', final', ran', concludes, same⟩ :=
          awaitAfter_of_decision found pending
        cases ran.symm.trans ran'
        exact .inr ⟨.inl same, fun _ => ⟨status, found, concludes, same⟩⟩

/-- A wait ends before one of its status reads, cancelled, or with it. -/
theorem awaitFrom_ends
    (came : executor.ComesTo operation target policy read started begun polls session)
    (ran : executor.awaitFrom operation target policy read started rounds polls session =
      some (result, final)) :
    ∃ earlier last,
      executor.ComesTo operation target policy read started begun earlier last ∧
        (result = .error (.cancelled operation) ∧ final = last ∨
          ∃ answer answered,
            executor.Polls operation policy read started last answer answered ∧
              Closes answered final ∧
              (IsDecision result → ∃ status, status? answer = some status ∧
                target.Concludes operation (earlier + 1) status result ∧
                final.journal = answered.journal)) := by
  induction rounds generalizing polls session with
  | zero => cases ran
  | succ rounds ih =>
      rcases awaitFrom_cases ran with ended | ⟨answer, answered, polled, ran⟩
      · exact ⟨polls, session, came, .inl ended⟩
      · rcases awaitAfter_cases came polled ran with ⟨rested, came, ran⟩ | ended
        · exact ih came ran
        · exact ⟨polls, session, came, .inr ⟨answer, answered, polled, ended⟩⟩

/-- A wait that ends within some rounds has gone on less often than that. -/
theorem ComesTo.lt_rounds
    (came : executor.ComesTo operation target policy read started begun polls session)
    (ran : executor.awaitFrom operation target policy read started rounds 0 begun =
      some (result, final)) : polls < rounds := by
  have spent {polls : Nat} {session : Session World}
      (came : executor.ComesTo operation target policy read started begun polls session) :
      polls ≠ rounds := by
    rintro rfl
    rw [← Nat.zero_add polls, came.awaitFrom_eq] at ran
    cases ran
  induction came with
  | begin => exact Nat.pos_of_ne_zero (spent .begin).symm
  | again came polled told pending ticked early slept ih =>
      exact Nat.lt_of_le_of_ne ih (spent (.again came polled told pending ticked early slept))

/-- A status read that decides is the last one that a wait makes. -/
theorem MakesRead.last {later : Nat} {last : Session World}
    {other : Except CallError ObservedStatus}
    (makes : executor.MakesRead operation target policy read opening position answer answered)
    (told : status? answer = some status) (decides : target.evaluate status ≠ .pending)
    (makesLater : executor.MakesRead operation target policy read opening later other last) :
    later ≤ position := by
  obtain ⟨started, begun, earlier, session, opened, came, polled, rfl⟩ := makes
  obtain ⟨started', begun', earlier', session', opened', came', -, rfl⟩ := makesLater
  cases opened.symm.trans opened'
  apply Nat.le_of_not_lt
  intro before
  -- the same read would have to leave the wait undecided, for the later one to be made
  obtain ⟨session, given, left, undecided, goesOn, polled', told', pending⟩ :=
    came'.undecided (Nat.lt_of_succ_lt_succ before)
  cases came.unique goesOn
  cases (polled.unique polled').1
  cases told.symm.trans told'
  exact decides pending

/-- A wait goes on with the answer to each of its status reads. -/
theorem ComesTo.await_eq
    (came : executor.ComesTo operation target policy read started begun polls session)
    (opened : executor.environment.time opening = some (started, begun))
    (polled : executor.Polls operation policy read started session answer answered)
    (enough : polls < executor.rounds) :
    ∃ rounds, executor.await operation target policy read opening =
      executor.awaitAfter operation target policy read started rounds polls answer
        answered := by
  obtain ⟨rounds, available⟩ : ∃ rounds, executor.rounds = rounds + 1 + polls :=
    ⟨executor.rounds - (polls + 1), by lia⟩
  refine ⟨rounds, ?_⟩
  rw [await, Run.bind_of_eq_some opened, available, came.awaitFrom_eq,
    awaitFrom_of_polls polled]

/-- A status read that decides ends the wait with what the status means. -/
theorem MakesRead.ends
    (makes : executor.MakesRead operation target policy read opening position answer answered)
    (enough : position ≤ executor.rounds) (told : status? answer = some status)
    (decides : target.evaluate status ≠ .pending) :
    ∃ result final,
      executor.await operation target policy read opening = some (result, final) ∧
        target.Concludes operation position status result ∧
        final.journal = answered.journal := by
  obtain ⟨started, begun, earlier, session, opened, came, polled, rfl⟩ := makes
  obtain ⟨rounds, goes⟩ := came.await_eq opened polled enough
  rw [goes]
  exact awaitAfter_of_decision told decides

/-- A wait that has ended was given enough rounds for all its status reads. -/
theorem MakesRead.le_rounds
    (makes : executor.MakesRead operation target policy read opening position answer answered)
    (ran : executor.await operation target policy read opening = some (result, final)) :
    position ≤ executor.rounds := by
  obtain ⟨started, begun, earlier, session, opened, came, -, rfl⟩ := makes
  rw [await, Run.bind_of_eq_some opened] at ran
  exact came.lt_rounds ran

theorem isDecision_of_concludes
    (concludes : target.Concludes operation position status result) : IsDecision result := by
  cases concludes <;> trivial

/-- What the status reads of a wait have to do with its end. -/
structure DecidedByReads (executor : Executor World) (operation : String) (target : Target)
    (policy : PollPolicy) (read : Run World (Except RemoteError ObservedStatus))
    (opening : Session World) : Prop where
  /-- A status read that decides is the last one, and the wait ends at once with what the
  status means: with its position if it is a target status, and as a failure if it is a
  failure status. -/
  ends : ∀ {position answer answered status},
    executor.MakesRead operation target policy read opening position answer answered →
    position ≤ executor.rounds →
    status? answer = some status → target.evaluate status ≠ .pending →
    (∀ later other last,
      executor.MakesRead operation target policy read opening later other last →
        later ≤ position) ∧
    ∃ result final,
      executor.await operation target policy read opening = some (result, final) ∧
        target.Concludes operation position status result ∧
        final.journal = answered.journal
  /-- A wait ends with a target status or a failure status for no other reason. -/
  only : ∀ {result final},
    executor.await operation target policy read opening = some (result, final) →
    IsDecision result →
    ∃ position answer answered status,
      executor.MakesRead operation target policy read opening position answer answered ∧
        status? answer = some status ∧
        target.Concludes operation position status result ∧
        final.journal = answered.journal
  /-- No status read decides in a wait that ends otherwise. -/
  undecided : ∀ {result final},
    executor.await operation target policy read opening = some (result, final) →
    ¬ IsDecision result → ∀ {position answer answered status},
    executor.MakesRead operation target policy read opening position answer answered →
    status? answer = some status → target.evaluate status = .pending
  /-- These are all the status reads: a wait ends before one, or with one. -/
  accounted : ∀ {result final},
    executor.await operation target policy read opening = some (result, final) →
    ∃ started begun polls last,
      executor.environment.time opening = some (started, begun) ∧
        executor.ComesTo operation target policy read started begun polls last ∧
        (final = last ∨ ∃ answer answered,
          executor.Polls operation policy read started last answer answered ∧
            Closes answered final)

/-- A wait ends with the first status read that decides it, whatever the clock shows and
whether or not the caller has cancelled by then, and with a decision for no other reason. -/
theorem await_decidedByReads (executor : Executor World) (operation : String)
    (target : Target) (policy : PollPolicy)
    (read : Run World (Except RemoteError ObservedStatus)) (opening : Session World) :
    executor.DecidedByReads operation target policy read opening where
  ends := by
    intro position answer answered status makes enough told decides
    exact ⟨fun later other last => makes.last told decides,
      makes.ends enough told decides⟩
  only := by
    intro result final ran decision
    obtain ⟨started, begun, opened, ran⟩ := Run.bind_eq_some_iff.1 ran
    obtain ⟨earlier, last, came, ended⟩ := awaitFrom_ends .begin ran
    rcases ended with ⟨rfl, -⟩ | ⟨answer, answered, polled, -, decided⟩
    · exact decision.elim
    · obtain ⟨status, told, concludes, journal⟩ := decided decision
      exact ⟨earlier + 1, answer, answered, status,
        ⟨started, begun, earlier, last, opened, came, polled, rfl⟩, told, concludes, journal⟩
  undecided := by
    intro result final ran noDecision position answer answered status makes told
    apply Decidable.byContradiction
    intro decides
    obtain ⟨other, last, ran', concludes, -⟩ := makes.ends (makes.le_rounds ran) told decides
    cases ran.symm.trans ran'
    exact noDecision (isDecision_of_concludes concludes)
  accounted := by
    intro result final ran
    obtain ⟨started, begun, opened, ran⟩ := Run.bind_eq_some_iff.1 ran
    obtain ⟨earlier, last, came, ended⟩ := awaitFrom_ends .begin ran
    refine ⟨started, begun, earlier, last, opened, came, ?_⟩
    rcases ended with ⟨-, same⟩ | ⟨answer, answered, polled, closes, -⟩
    · exact .inl same
    · exact .inr ⟨answer, answered, polled, closes⟩

end Executor

namespace Simulation.Server

/-- A server is waited for half a minute, with five seconds between two reads. -/
def patience : PollPolicy where
  interval := .ofSeconds 5
  deadline := .ofSeconds 30
  read := { RetryPolicy.read with jitter := false }

/-- The second read of the status takes a minute, and the caller cancels meanwhile. -/
def late : Session World :=
  .fresh (world [("Describe", [found 4 "starting",
    { found 4 "ready" with advance := .ofSeconds 60, cancels := true }])])

/-- A read of the status of a server. -/
def look : Run World (Except RemoteError ObservedStatus) := do
  let answer ← World.environment.call (.poll .create) (instanceRequest "Describe" "s1")
  return answer.bind adapter.readStatus

theorem late_server_is_ready :
    (reconciler.executor.await "create" ready patience look late).map
        (fun ended => (ended.1.toOption, ended.2.world.cancelled)) =
      some (some ⟨.present "ready", 2, .ofSeconds 65⟩, true) ∧
    reconciler.executor.DecidedByReads "create" ready patience look late :=
  ⟨by decide +kernel, Executor.await_decidedByReads _ _ _ _ _ _⟩

end Simulation.Server

end ControlLoop
