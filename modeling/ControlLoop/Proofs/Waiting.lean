import ControlLoop.Proofs.Decision
import ControlLoop.Proofs.Schedule
import Mathlib.Algebra.Order.Floor.Div

/-!
# The time budget of a wait

A wait sleeps between its status reads, and each read sleeps between its attempts.  All of
these sleeps come out of one deadline: a read may retry for what the wait has left.  So
the wait ends, and never has to work out what is left of a deadline that has passed.

Main statement: `Executor.await_meets_deadline`.
-/

namespace ControlLoop

/-! ## Policies whose first pause is not the shortest

The pauses of a policy are cut down to the longest one, the first pause included. -/

namespace RetryPolicy

/-- The policy with its first pause cut down to the longest one. -/
def leveled (policy : RetryPolicy) : RetryPolicy :=
  { policy with initialBackoff := min policy.initialBackoff policy.maxBackoff }

theorem backoff_leveled (policy : RetryPolicy) (attempt : Nat) :
    policy.leveled.backoff attempt = policy.backoff attempt := by
  have longer : policy.maxBackoff ≤ policy.maxBackoff <<< attempt := by
    rw [Nat.shiftLeft_eq]
    exact Nat.le_mul_of_pos_right _ (Nat.two_pow_pos attempt)
  rw [backoff, backoff]
  split
  · rcases Nat.le_total policy.initialBackoff policy.maxBackoff with ordered | crossed
    · rw [leveled, Nat.min_eq_left ordered]
    · have doubled : policy.maxBackoff ≤ policy.initialBackoff <<< attempt := by
        apply Nat.le_trans crossed
        rw [Nat.shiftLeft_eq]
        exact Nat.le_mul_of_pos_right _ (Nat.two_pow_pos attempt)
      rw [leveled, Nat.min_eq_right crossed, Nat.min_eq_right longer, Nat.min_eq_right doubled]
  · rfl

end RetryPolicy

namespace Executor

variable {World α : Type} {executor : Executor World} {operation : String}

theorem pauseFor_leveled (environment : Environment World) (policy : RetryPolicy)
    (attempt : Nat) :
    environment.pauseFor policy.leveled attempt = environment.pauseFor policy attempt := by
  simp only [Environment.pauseFor, RetryPolicy.pause, RetryPolicy.backoff_leveled]
  rfl

theorem retryFrom_leveled {kind : OperationKind} {policy : RetryPolicy}
    {attempt : Run World (Except RemoteError α)} {started : Duration}
    {rounds attempts : Nat} :
    executor.retryFrom operation kind policy.leveled attempt started rounds attempts =
      executor.retryFrom operation kind policy attempt started rounds attempts := by
  induction rounds generalizing attempts with
  | zero => rfl
  | succ rounds ih =>
      have after (answer : Except RemoteError α) :
          executor.retryAfter operation kind policy.leveled attempt started rounds attempts
              answer =
            executor.retryAfter operation kind policy attempt started rounds attempts
              answer := by
        cases answer with
        | ok result => rfl
        | error failure =>
            simp only [retryAfter, ih, pauseFor_leveled]
            rfl
      simp only [retryFrom_succ, after]

theorem awaitFrom_leveled {target : Target} {policy : PollPolicy}
    {read : Run World (Except RemoteError ObservedStatus)} {started : Duration}
    {rounds polls : Nat} :
    executor.awaitFrom operation target { policy with read := policy.read.leveled } read
        started rounds polls =
      executor.awaitFrom operation target policy read started rounds polls := by
  induction rounds generalizing polls with
  | zero => rfl
  | succ rounds ih =>
      -- to cut the deadline of a read down does not touch its pauses
      have same (left : Duration) :
          executor.retry operation .read (policy.read.leveled.clampedTo left) read =
            executor.retry operation .read (policy.read.clampedTo left) read := by
        have clamped : policy.read.leveled.clampedTo left =
          (policy.read.clampedTo left).leveled := rfl
        simp only [retry, clamped, retryFrom_leveled]
      simp only [awaitFrom_succ, awaitAfter, ih, same]

end Executor

/-! ## Subtraction without underflow

In the loops here, what is left of a deadline can be worked out only before it has
passed. -/

/-- What is left of a deadline.  A run has no result that asks for it after the deadline has
passed. -/
def Run.left {World : Type} (deadline elapsed : Duration) : Run World Duration :=
  if elapsed ≤ deadline then pure (deadline - elapsed) else Run.outOfRounds

theorem Run.left_of_le {World : Type} {deadline elapsed : Duration}
    (within : elapsed ≤ deadline) :
    (Run.left deadline elapsed : Run World Duration) = pure (deadline - elapsed) :=
  if_pos within

namespace Executor

variable {World α : Type}

/-- `retryFrom`, where what is left of the deadline is worked out by `Run.left`. -/
def retryFromChecked (executor : Executor World) (operation : String)
    (kind : OperationKind) (policy : RetryPolicy)
    (attempt : Run World (Except RemoteError α)) (started : Duration) :
    (rounds : Nat) → (attempts : Nat) → Run World (Except CallError α)
  | 0, _ => Run.outOfRounds
  | rounds + 1, attempts => do
      if ← executor.environment.isCancelled then
        return .error (.cancelled operation)
      else
        match ← attempt with
        | .ok result => return .ok result
        | .error failure =>
            match executor.classifier.classify failure kind with
            | .nonRetryable => return .error (.nonRetryable operation failure)
            | .fatal => return .error (.fatal operation failure)
            | .retryable =>
                let elapsed := (← executor.environment.time) - started
                if policy.deadline ≤ elapsed then
                  return .error
                    (.timeout operation (attempts + 1) elapsed (some failure))
                else
                  let pause ← executor.environment.pauseFor policy attempts
                  let left ← Run.left policy.deadline elapsed
                  if ← executor.environment.rest (min pause left) then
                    retryFromChecked executor operation kind policy attempt started rounds
                      (attempts + 1)
                  else
                    return .error (.cancelled operation)

/-- `retry`, where what is left of the deadline is worked out by `Run.left`. -/
def retryChecked (executor : Executor World) (operation : String) (kind : OperationKind)
    (policy : RetryPolicy) (attempt : Run World (Except RemoteError α)) :
    Run World (Except CallError α) := do
  let started ← executor.environment.time
  executor.retryFromChecked operation kind policy attempt started executor.rounds 0

/-- `awaitFrom`, where what is left of the deadlines is worked out by `Run.left`, the
deadline of each read included. -/
def awaitFromChecked (executor : Executor World) (operation : String) (target : Target)
    (policy : PollPolicy) (read : Run World (Except RemoteError ObservedStatus))
    (started : Duration) :
    (rounds : Nat) → (polls : Nat) → Run World (Except PollError FinalStatus)
  | 0, _ => Run.outOfRounds
  | rounds + 1, polls => do
      if ← executor.environment.isCancelled then
        return .error (.cancelled operation)
      else
        let now ← executor.environment.time
        let left ← Run.left policy.deadline (now - started)
        let answer ← executor.retryChecked operation .read (policy.read.clampedTo left) read
        let elapsed := (← executor.environment.time) - started
        match statusOf operation (polls + 1) elapsed answer with
        | .error failure => return .error failure
        | .ok status =>
            match target.evaluate status with
            | .reached => return .ok ⟨status, polls + 1, elapsed⟩
            | .failed status => return .error (.terminalFailure operation status)
            | .pending =>
                if policy.deadline ≤ elapsed then
                  return .error
                    (.timeout operation (polls + 1) elapsed (some status.text))
                else
                  let left ← Run.left policy.deadline elapsed
                  if ← executor.environment.rest (min policy.interval left) then
                    awaitFromChecked executor operation target policy read started rounds
                      (polls + 1)
                  else
                    return .error (.cancelled operation)

/-- `await`, where what is left of the deadlines is worked out by `Run.left`. -/
def awaitChecked (executor : Executor World) (operation : String) (target : Target)
    (policy : PollPolicy) (read : Run World (Except RemoteError ObservedStatus)) :
    Run World (Except PollError FinalStatus) := do
  let started ← executor.environment.time
  executor.awaitFromChecked operation target policy read started executor.rounds 0

variable {executor : Executor World} {operation : String}

theorem retryFromChecked_eq {kind : OperationKind} {policy : RetryPolicy}
    {attempt : Run World (Except RemoteError α)} {started : Duration}
    {rounds attempts : Nat} :
    executor.retryFromChecked operation kind policy attempt started rounds attempts =
      executor.retryFrom operation kind policy attempt started rounds attempts := by
  induction rounds generalizing attempts with
  | zero => rfl
  | succ rounds ih =>
      rw [retryFromChecked, retryFrom_succ]
      apply bind_congr
      intro cancelled
      split
      · rfl
      · apply bind_congr
        intro answer
        cases answer with
        | ok result => rfl
        | error failure =>
            simp only [retryAfter]
            cases executor.classifier.classify failure kind with
            | nonRetryable => rfl
            | fatal => rfl
            | retryable =>
                apply bind_congr
                intro now
                split
                · rfl
                next early =>
                  simp only [Run.left_of_le (Nat.le_of_not_le early), pure_bind, ih]

theorem retryChecked_eq {kind : OperationKind} {policy : RetryPolicy}
    {attempt : Run World (Except RemoteError α)} :
    executor.retryChecked operation kind policy attempt =
      executor.retry operation kind policy attempt := by
  simp only [retryChecked, retry, retryFromChecked_eq]

section

variable {target : Target} {policy : PollPolicy} {reading : World → Duration}
variable {read : Run World (Except RemoteError ObservedStatus)}

/-- No round of a wait begins after the deadline: each sleep is cut down to what is left
of it. -/
theorem awaitFromChecked_eq (clock : executor.environment.SleepsOnly reading)
    {started : Duration} {rounds polls : Nat} {session : Session World}
    (within : reading session.world - started ≤ policy.deadline) :
    executor.awaitFromChecked operation target policy read started rounds polls session =
      executor.awaitFrom operation target policy read started rounds polls session := by
  induction rounds generalizing polls session with
  | zero => rfl
  | succ rounds ih =>
      rw [awaitFromChecked, awaitFrom_succ]
      apply Run.bind_congr
      intro cancelled middle looked
      cases looked
      split
      · rfl
      · apply Run.bind_congr
        intro now timed ticked
        cases ticked
        rw [clock.shows, Run.left_of_le within, pure_bind, retryChecked_eq]
        apply Run.bind_congr
        intro answer answered retried
        apply Run.bind_congr
        intro later clocked ticked
        cases ticked
        rw [clock.shows]
        dsimp only
        cases statusOf operation (polls + 1) (reading answered.world - started) answer with
        | error failure => rfl
        | ok status =>
            dsimp only
            cases target.evaluate status with
            | reached => rfl
            | failed name => rfl
            | pending =>
                dsimp only
                split
                · rfl
                next early =>
                  rw [Run.left_of_le (Nat.le_of_not_le early), pure_bind]
                  apply Run.bind_congr
                  intro completed rested slept
                  cases completed with
                  | false => rfl
                  | true =>
                      -- the sleep ends at the deadline at the latest
                      obtain ⟨_, _, ran, -, moves⟩ := Environment.rest_finishes clock _ _
                      cases ran.symm.trans slept
                      have moved := moves rfl
                      rw [clock.now] at moved
                      apply ih
                      lia

theorem awaitChecked_eq (clock : executor.environment.SleepsOnly reading) :
    executor.awaitChecked operation target policy read =
      executor.await operation target policy read := by
  funext session
  apply Run.bind_congr
  intro started begun ticked
  cases ticked
  apply awaitFromChecked_eq clock
  rw [clock.shows, clock.now, Nat.sub_self]
  exact Nat.zero_le _

end

end Executor

/-! ## Waits that stay undecided -/

namespace Executor

variable {World α : Type} {executor : Executor World} {operation : String}

/-- A call whose next attempt decides makes no other one. -/
theorem retry_of_decision {kind : OperationKind} {policy : RetryPolicy}
    {attempt : Run World (Except RemoteError α)} {rehearsal : Rehearsal World α}
    {opening session : Session World} {made : Nat} {elapsed : Duration} {events : List Event}
    {result : Except CallError α} (plays : rehearsal.Plays executor.environment attempt)
    (since : rehearsal.Since opening made elapsed events session)
    (available : 0 < executor.rounds)
    (decides : executor.decision? operation kind (rehearsal.answers made) = some result) :
    (executor.retry operation kind policy attempt).Finishes session fun answer final =>
      answer = result ∧
        ∃ event, rehearsal.Since opening (made + 1) elapsed (event :: events) final := by
  apply Run.Finishes.bind (plays.time_finishes since)
  rintro started begun ⟨-, since⟩
  obtain ⟨rounds, oneMore⟩ := Nat.exists_eq_add_of_lt available
  rw [Nat.zero_add] at oneMore
  rw [oneMore]
  apply (retryFrom_of_decision plays since decides).mono
  rintro answer final ⟨same, event, -, now⟩
  exact ⟨same, event, now⟩

variable {target : Target} {policy : PollPolicy}
variable {read : Run World (Except RemoteError ObservedStatus)}
variable {rehearsal : Rehearsal World ObservedStatus} {opening session : Session World}
variable {rounds polls : Nat} {elapsed : Duration} {events : List Event}
variable {statuses : Nat → ObservedStatus}

/-- The first attempt of each status read comes to the next of some statuses, and none of
them decides. -/
structure StaysPending (executor : Executor World) (operation : String) (target : Target)
    (rehearsal : Rehearsal World ObservedStatus) (statuses : Nat → ObservedStatus) : Prop where
  tells : ∀ index,
    (executor.decision? operation .read (rehearsal.answers index)).bind status? =
      some (statuses index)
  pending : ∀ index, target.evaluate (statuses index) = .pending

section

variable (plays : rehearsal.Plays executor.environment read)
variable (stays : executor.StaysPending operation target rehearsal statuses)
variable (available : 0 < executor.rounds)
variable (since : rehearsal.Since opening polls elapsed events session)

include plays stays available since

/-- A round reads the status with one attempt, and then looks at the clock. -/
theorem awaitFrom_reads {meets : Except PollError FinalStatus → Session World → Prop}
    (late : policy.deadline ≤ elapsed → ∀ event final,
      rehearsal.Since opening (polls + 1) elapsed (event :: events) final →
      meets (.error (.timeout operation (polls + 1) elapsed (some (statuses polls).text)))
        final)
    (early : elapsed < policy.deadline → ∀ events rested,
      rehearsal.Since opening (polls + 1)
        (elapsed + min policy.interval (policy.deadline - elapsed)) events rested →
      (executor.awaitFrom operation target policy read (rehearsal.reading opening.world)
        rounds (polls + 1)).Finishes rested meets) :
    (executor.awaitFrom operation target policy read (rehearsal.reading opening.world)
      (rounds + 1) polls).Finishes session meets := by
  obtain ⟨answer, decides, told⟩ := Option.bind_eq_some_iff.1 (stays.tells polls)
  rw [awaitFrom_succ]
  apply Run.Finishes.bind (plays.isCancelled_finishes session)
  rintro cancelled middle ⟨rfl, rfl⟩
  apply Run.Finishes.bind (plays.time_finishes since)
  rintro now timed ⟨rfl, since⟩
  apply Run.Finishes.bind (retry_of_decision plays since available decides)
  rintro given answered ⟨rfl, event, since⟩
  apply Run.Finishes.bind (plays.time_finishes since)
  rintro later clocked ⟨rfl, since⟩
  simp only [statusOf_eq_ok_iff.2 told, stays.pending polls, Nat.add_sub_cancel_left]
  split
  next expired => exact .pure (late expired event clocked since)
  next inTime =>
    apply Run.Finishes.bind (plays.rest_finishes since _)
    rintro completed rested ⟨rfl, since⟩
    exact early (Nat.not_le.1 inTime) _ rested since

/-- How a wait ends that stays undecided: it times out at the deadline, with the status of
the last read.  It has read the status at each multiple of the interval before the deadline,
zero included, and at the deadline. -/
def TimesOut (operation : String) (policy : PollPolicy)
    (rehearsal : Rehearsal World ObservedStatus) (statuses : Nat → ObservedStatus)
    (opening : Session World) (result : Except PollError FinalStatus)
    (final : Session World) : Prop :=
  result = .error (.timeout operation (policy.deadline ⌈/⌉ policy.interval + 1)
      policy.deadline (some (statuses (policy.deadline ⌈/⌉ policy.interval)).text)) ∧
    ∃ events, rehearsal.Since opening (policy.deadline ⌈/⌉ policy.interval + 1)
      policy.deadline events final

/-- A round is the last one if it is at the deadline, and otherwise the next one is at the
next multiple of the interval or at the deadline. -/
theorem awaitFrom_reads_at (positive : 0 < policy.interval)
    (at_eq : elapsed = min (policy.interval * polls) policy.deadline)
    (soon : polls ≤ policy.deadline ⌈/⌉ policy.interval)
    (again : polls < policy.deadline ⌈/⌉ policy.interval → ∀ events rested,
      rehearsal.Since opening (polls + 1) (min (policy.interval * (polls + 1)) policy.deadline)
        events rested →
      (executor.awaitFrom operation target policy read (rehearsal.reading opening.world)
        rounds (polls + 1)).Finishes rested
        (TimesOut operation policy rehearsal statuses opening)) :
    (executor.awaitFrom operation target policy read (rehearsal.reading opening.world)
      (rounds + 1) polls).Finishes session
      (TimesOut operation policy rehearsal statuses opening) := by
  have covers : policy.deadline ⌈/⌉ policy.interval ≤ polls ↔
      policy.deadline ≤ policy.interval * polls := ceilDiv_le_iff_le_mul positive
  apply awaitFrom_reads plays stays available since
  · intro expired event final now
    have last : polls = policy.deadline ⌈/⌉ policy.interval :=
      Nat.le_antisymm soon (covers.2 (by lia))
    have spent : elapsed = policy.deadline := by lia
    rw [spent, last] at now
    rw [spent, last]
    exact ⟨rfl, _, now⟩
  · intro inTime events rested now
    have next : elapsed + min policy.interval (policy.deadline - elapsed) =
        min (policy.interval * (polls + 1)) policy.deadline := by
      rw [Nat.mul_succ]
      lia
    rw [next] at now
    have unspent : ¬ policy.deadline ⌈/⌉ policy.interval ≤ polls := by
      rw [covers]
      lia
    exact again (Nat.lt_of_not_le unspent) events rested now

end

theorem awaitFrom_timesOut (plays : rehearsal.Plays executor.environment read)
    (stays : executor.StaysPending operation target rehearsal statuses)
    (available : 0 < executor.rounds) (positive : 0 < policy.interval)
    (since : rehearsal.Since opening polls (min (policy.interval * polls) policy.deadline)
      events session)
    (soon : polls ≤ policy.deadline ⌈/⌉ policy.interval)
    (enough : policy.deadline ⌈/⌉ policy.interval ≤ polls + rounds) :
    (executor.awaitFrom operation target policy read (rehearsal.reading opening.world)
      (rounds + 1) polls).Finishes session
      (TimesOut operation policy rehearsal statuses opening) := by
  induction rounds generalizing polls events session with
  | zero =>
      apply awaitFrom_reads_at plays stays available since positive rfl soon
      intro before
      lia
  | succ rounds ih =>
      apply awaitFrom_reads_at plays stays available since positive rfl soon
      intro before events rested now
      exact ih now before (by lia)

theorem await_timesOut (plays : rehearsal.Plays executor.environment read)
    (stays : executor.StaysPending operation target rehearsal statuses)
    (positive : 0 < policy.interval) (enough : policy.rounds ≤ executor.rounds)
    (fresh : rehearsal.made opening.world = 0) :
    (executor.await operation target policy read).Finishes opening
      (TimesOut operation policy rehearsal statuses opening) := by
  have begins : rehearsal.Since opening 0 0 [] opening := ⟨fresh, rfl, rfl⟩
  apply Run.Finishes.bind (plays.time_finishes begins)
  rintro started begun ⟨rfl, begins⟩
  obtain ⟨rounds, oneMore⟩ : ∃ rounds, executor.rounds = rounds + 1 :=
    Nat.exists_eq_add_of_le' (Nat.le_trans (Nat.le_add_left 1 _) enough)
  have fits : policy.deadline ⌈/⌉ policy.interval ≤ policy.deadline / policy.interval + 1 :=
    (ceilDiv_le_iff_le_mul positive).2 (Nat.le_of_lt (Nat.lt_mul_div_succ _ positive))
  rw [PollPolicy.rounds] at enough
  rw [Nat.add_zero, oneMore]
  rw [← Nat.zero_min policy.deadline, ← Nat.mul_zero policy.interval] at begins
  exact awaitFrom_timesOut plays stays (by lia) positive begins (Nat.zero_le _) (by lia)

end Executor

/-! ## The budget -/

/-- Waiting takes time: there is a pause between two status reads, and between two attempts
of one. -/
structure PollPolicy.IsPaced (policy : PollPolicy) : Prop where
  interval : 0 < policy.interval
  steady : policy.read.jitter = false
  initial : 0 < policy.read.initialBackoff
  longest : 0 < policy.read.maxBackoff

namespace Executor

variable {World : Type}

/-- Every wait ends, whatever its status reads come to and whenever the caller cancels, and
all of its sleeps, those within the reads included, fit into its deadline.  It works out what
is left of the deadline only before that has passed.  If each status read comes to a status
with its first attempt, and none of them decides, then it times out at the deadline, after
as many reads as intervals cover the deadline and one more. -/
theorem await_meets_deadline (executor : Executor World) (operation : String)
    (target : Target) {policy : PollPolicy}
    {read : Run World (Except RemoteError ObservedStatus)} {reading : World → Duration}
    (paced : policy.IsPaced) (clock : executor.environment.SleepsOnly reading)
    (atOnce : read.EndsAtOnce reading)
    (enoughReads : policy.read.leveled.rounds ≤ executor.rounds)
    (enough : policy.rounds ≤ executor.rounds) :
    (executor.await operation target policy read).EndsWithin policy.deadline ∧
    executor.awaitChecked operation target policy read =
      executor.await operation target policy read ∧
    ∀ (rehearsal : Rehearsal World ObservedStatus) (statuses : Nat → ObservedStatus)
      (opening : Session World),
      rehearsal.Plays executor.environment read → rehearsal.made opening.world = 0 →
      executor.StaysPending operation target rehearsal statuses →
      (executor.await operation target policy read).Finishes opening
        (TimesOut operation policy rehearsal statuses opening) := by
  refine ⟨?_, awaitChecked_eq clock, ?_⟩
  · have leveled : policy.read.leveled.IsPaced :=
      ⟨paced.steady, Nat.lt_min.2 ⟨paced.initial, paced.longest⟩, Nat.min_le_right _ _⟩
    have same : executor.await operation target { policy with read := policy.read.leveled }
        read = executor.await operation target policy read := by
      simp only [await, awaitFrom_leveled]
    rw [← same]
    exact await_endsWithin clock operation target leveled paced.interval atOnce enoughReads
      enough
  · intro rehearsal statuses opening plays fresh stays
    exact await_timesOut plays stays paced.interval enough fresh

end Executor

namespace Simulation.Counter

open Server (adapter ready patience)

/-- A server that starts for ever. -/
def starting : Environment Counter :=
  environment fun _ => (Server.found 4 "starting").answer

/-- A read of the status of the server. -/
def look : Run Counter (Except RemoteError ObservedStatus) := do
  let answer ← starting.call (.poll .create) request
  return answer.bind adapter.readStatus

/-- Each read comes to the same status. -/
def looks : Rehearsal Counter ObservedStatus where
  reading := time
  made := calls
  answers _ := .ok (.present "starting")
  tells event _ := event = .called (.poll .create) request (Server.found 4 "starting").answer

theorem looks_plays : looks.Plays starting look where
  clock := by constructor <;> intros <;> rfl
  unfired _ := rfl
  completes _ _ := rfl
  made_now _ := rfl
  made_sleep _ _ := rfl
  attempts _ := ⟨_, _, rfl, rfl, rfl, rfl, _, rfl, rfl⟩

/-- An executor with enough rounds to wait for a server. -/
def waiter : Executor Counter :=
  ⟨starting, .standard, patience.read.rounds⟩

theorem starting_server_times_out :
    ((waiter.await "create" ready patience look (.fresh {})).map fun ended =>
      (ended.2.world, slept ended.2.journal)) =
      some (⟨.ofSeconds 30, 7⟩, .ofSeconds 30) ∧
    (waiter.await "create" ready patience look).EndsWithin patience.deadline ∧
    waiter.awaitChecked "create" ready patience look =
      waiter.await "create" ready patience look ∧
    (waiter.await "create" ready patience look).Finishes (.fresh {})
      (Executor.TimesOut "create" patience looks (fun _ => .present "starting")
        (.fresh {})) := by
  have paced : patience.IsPaced := ⟨by decide, rfl, by decide, by decide⟩
  have atOnce : look.EndsAtOnce time := fun _ => ⟨_, _, rfl, rfl, by simp [slept, Event.pause]⟩
  have budget := waiter.await_meets_deadline "create" ready paced looks_plays.clock atOnce
    (by decide) (by decide)
  refine ⟨by decide +kernel, budget.1, budget.2.1, ?_⟩
  exact budget.2.2 looks _ _ looks_plays rfl ⟨fun _ => rfl, fun _ => by decide +kernel⟩

end Simulation.Counter

end ControlLoop
