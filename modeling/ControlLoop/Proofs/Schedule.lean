import ControlLoop.Proofs.Termination
import Mathlib.Algebra.BigOperators.Group.Finset.Basic
import Mathlib.Order.Nat

/-!
# The schedule of retries

Where only sleeping takes time and nobody cancels, the answers to the attempts and the
policy determine everything that the retries of a call do.  Attempts are made until one
decides or the pauses add up to the deadline, the last pause being cut down to what is
left of it.

A `Rehearsal` fixes what the attempts come to, as an infinite sequence.

Main statement: `Executor.retry_keeps_schedule`.
-/

namespace ControlLoop

open Finset (range)

/-! ## Sleeps of a policy -/

namespace RetryPolicy

/-- The time slept before an attempt, counted from zero. -/
def sleptBefore (policy : RetryPolicy) : Nat → Duration
  | 0 => 0
  | attempt + 1 =>
      policy.sleptBefore attempt +
        min (policy.backoff attempt) (policy.deadline - policy.sleptBefore attempt)

/-- The sleep after a failed attempt: its pause, or what is left of the deadline. -/
def sleepAfter (policy : RetryPolicy) (attempt : Nat) : Duration :=
  min (policy.backoff attempt) (policy.deadline - policy.sleptBefore attempt)

variable {policy : RetryPolicy}

theorem sleptBefore_succ (policy : RetryPolicy) (attempt : Nat) :
    policy.sleptBefore (attempt + 1) =
      policy.sleptBefore attempt + policy.sleepAfter attempt :=
  rfl

/-- The sleeps add up to the pauses until these exceed the deadline. -/
theorem sleptBefore_eq_min (policy : RetryPolicy) (attempt : Nat) :
    policy.sleptBefore attempt =
      min (∑ earlier ∈ range attempt, policy.backoff earlier) policy.deadline := by
  induction attempt with
  | zero => simp [sleptBefore]
  | succ attempt ih =>
      rw [sleptBefore_succ, sleepAfter, Finset.sum_range_succ, ih]
      lia

theorem sleptBefore_le (policy : RetryPolicy) (attempt : Nat) :
    policy.sleptBefore attempt ≤ policy.deadline :=
  policy.sleptBefore_eq_min attempt ▸ Nat.min_le_right _ _

theorem backoff_pos (initial : 0 < policy.initialBackoff) (longest : 0 < policy.maxBackoff)
    (attempt : Nat) : 0 < policy.backoff attempt := by
  rw [backoff]
  split
  · have doubled : 0 < policy.initialBackoff <<< attempt := by
      rw [Nat.shiftLeft_eq]
      exact Nat.mul_pos initial (Nat.two_pow_pos attempt)
    exact Nat.lt_min.2 ⟨doubled, longest⟩
  · exact longest

/-- The pauses before an attempt add up to the deadline. -/
def IsSpentBefore (policy : RetryPolicy) (attempt : Nat) : Prop :=
  policy.deadline ≤ ∑ earlier ∈ range attempt, policy.backoff earlier

instance (policy : RetryPolicy) : DecidablePred policy.IsSpentBefore :=
  fun _ => inferInstanceAs (Decidable (_ ≤ _))

/-- If every pause takes time, there is a first attempt before which they add up to the
deadline. -/
theorem exists_isLeast_spent (initial : 0 < policy.initialBackoff)
    (longest : 0 < policy.maxBackoff) :
    ∃ last, IsLeast {attempt | policy.IsSpentBefore attempt} last := by
  have atLeast (attempt : Nat) :
      attempt ≤ ∑ earlier ∈ range attempt, policy.backoff earlier := by
    induction attempt with
    | zero => exact Nat.zero_le _
    | succ attempt ih =>
        rw [Finset.sum_range_succ]
        exact Nat.add_le_add ih (backoff_pos initial longest attempt)
  have spent : ∃ attempt, policy.IsSpentBefore attempt := ⟨policy.deadline, atLeast _⟩
  exact ⟨Nat.find spent, Nat.isLeast_find spent⟩

/-- At the attempt before which the pauses add up to the deadline, all of it has been
slept. -/
theorem sleptBefore_of_isSpent {attempt : Nat} (spent : policy.IsSpentBefore attempt) :
    policy.sleptBefore attempt = policy.deadline := by
  rw [sleptBefore_eq_min]
  exact Nat.min_eq_right spent

/-- At any earlier attempt, some of the deadline is left. -/
theorem sleptBefore_lt {last attempt : Nat}
    (least : IsLeast {attempt | policy.IsSpentBefore attempt} last) (before : attempt < last) :
    policy.sleptBefore attempt < policy.deadline := by
  have unspent : ¬ policy.IsSpentBefore attempt :=
    fun spent => absurd (least.2 spent) (Nat.not_le.2 before)
  rw [sleptBefore_eq_min]
  exact Nat.lt_of_le_of_lt (Nat.min_le_left _ _) (Nat.not_le.1 unspent)

end RetryPolicy

/-! ## Rehearsals -/

/-- What the attempts of a call come to, one after another. -/
structure Rehearsal (World α : Type) where
  /-- The time in a state of the outside. -/
  reading : World → Duration
  /-- The number of attempts that were made. -/
  made : World → Nat
  /-- The answers to the attempts, counted from zero. -/
  answers : Nat → Except RemoteError α
  /-- Whether an event is an attempt that came to an answer. -/
  tells : Event → Except RemoteError α → Prop

namespace Rehearsal

variable {World α : Type} {rehearsal : Rehearsal World α} {environment : Environment World}
variable {attempt : Run World (Except RemoteError α)} {opening session : Session World}
variable {made : Nat} {elapsed : Duration} {events : List Event}

/-- The outside plays a rehearsal: every attempt comes to the next answer, only sleeps take
time, and nobody cancels. -/
structure Plays (rehearsal : Rehearsal World α) (environment : Environment World)
    (attempt : Run World (Except RemoteError α)) : Prop where
  clock : environment.SleepsOnly rehearsal.reading
  unfired : ∀ world, environment.cancelled world = false
  completes : ∀ duration world, (environment.sleep duration world).1 = true
  made_now : ∀ world, rehearsal.made (environment.now world).2 = rehearsal.made world
  made_sleep : ∀ duration world,
    rehearsal.made (environment.sleep duration world).2 = rehearsal.made world
  attempts : ∀ session, attempt.Finishes session fun answer final =>
    answer = rehearsal.answers (rehearsal.made session.world) ∧
      rehearsal.made final.world = rehearsal.made session.world + 1 ∧
      rehearsal.reading final.world = rehearsal.reading session.world ∧
      ∃ event, rehearsal.tells event answer ∧ final.journal = event :: session.journal

/-- So many attempts were made in all; since an opening session so much time has passed and
such events were noted, latest first. -/
structure Since (rehearsal : Rehearsal World α) (opening : Session World) (made : Nat)
    (elapsed : Duration) (events : List Event) (session : Session World) : Prop where
  made_eq : rehearsal.made session.world = made
  reading_eq : rehearsal.reading session.world = rehearsal.reading opening.world + elapsed
  journal_eq : session.journal = events ++ opening.journal

/-! The outside plays a rehearsal, some time after the opening session. -/

variable (plays : rehearsal.Plays environment attempt)
variable (since : rehearsal.Since opening made elapsed events session)

include plays in
theorem Plays.isCancelled_finishes (session : Session World) :
    environment.isCancelled.Finishes session fun cancelled final =>
      cancelled = false ∧ final = session :=
  ⟨_, session, rfl, plays.unfired session.world, rfl⟩

include plays since

theorem Plays.time_finishes : environment.time.Finishes session fun now final =>
    now = rehearsal.reading opening.world + elapsed ∧
      rehearsal.Since opening made elapsed events final := by
  refine ⟨_, _, rfl, ?_, ?_, ?_, since.journal_eq⟩
  · exact (plays.clock.shows session.world).trans since.reading_eq
  · exact (plays.made_now session.world).trans since.made_eq
  · exact (plays.clock.now session.world).trans since.reading_eq

theorem Plays.rest_finishes (duration : Duration) :
    (environment.rest duration).Finishes session fun completed final =>
      completed = true ∧ rehearsal.Since opening made (elapsed + duration)
        (.slept duration true :: events) final := by
  have completed := plays.completes duration session.world
  refine ⟨_, _, rfl, completed, ?_, ?_, ?_⟩
  · exact (plays.made_sleep duration session.world).trans since.made_eq
  · rw [← Nat.add_assoc, ← since.reading_eq]
    exact plays.clock.sleep duration session.world completed
  · simp only [completed, List.cons_append, ← since.journal_eq]

theorem Plays.attempt_finishes : attempt.Finishes session fun answer final =>
    answer = rehearsal.answers made ∧
      ∃ event, rehearsal.tells event answer ∧
        rehearsal.Since opening (made + 1) elapsed (event :: events) final := by
  apply (plays.attempts session).mono
  rintro answer final ⟨next, counted, still, event, tells, noted⟩
  rw [since.made_eq] at next counted
  exact ⟨next, event, tells, counted, still.trans since.reading_eq,
    noted.trans (congrArg (event :: ·) since.journal_eq)⟩

end Rehearsal

/-! ## Rounds of the retries -/

namespace Executor

variable {World α : Type} {executor : Executor World} {operation : String}
variable {kind : OperationKind} {policy : RetryPolicy}
variable {attempt : Run World (Except RemoteError α)}
variable {rehearsal : Rehearsal World α} {opening session : Session World}
variable {made attempts rounds : Nat} {elapsed : Duration} {events : List Event}

section

variable (plays : rehearsal.Plays executor.environment attempt)
variable (since : rehearsal.Since opening made elapsed events session)

include plays since

/-- A round makes one attempt, and then does what the answer calls for. -/
theorem retryFrom_attempts {started : Duration}
    {meets : Except CallError α → Session World → Prop}
    (next : ∀ event answered, rehearsal.tells event (rehearsal.answers made) →
      rehearsal.Since opening (made + 1) elapsed (event :: events) answered →
      (executor.retryAfter operation kind policy attempt started rounds attempts
        (rehearsal.answers made)).Finishes answered meets) :
    (executor.retryFrom operation kind policy attempt started (rounds + 1)
      attempts).Finishes session meets := by
  rw [retryFrom_succ]
  apply Run.Finishes.bind (plays.isCancelled_finishes session)
  rintro cancelled middle ⟨rfl, rfl⟩
  apply Run.Finishes.bind (plays.attempt_finishes since)
  rintro answer answered ⟨rfl, event, tells, now⟩
  exact next event answered tells now

/-- A round whose attempt decides is the last one. -/
theorem retryFrom_of_decision {started : Duration} {result : Except CallError α}
    (decides : executor.decision? operation kind (rehearsal.answers made) = some result) :
    (executor.retryFrom operation kind policy attempt started (rounds + 1)
      attempts).Finishes session fun answer final =>
        answer = result ∧ ∃ event, rehearsal.tells event (rehearsal.answers made) ∧
          rehearsal.Since opening (made + 1) elapsed (event :: events) final := by
  apply retryFrom_attempts plays since
  intro event answered tells now
  rw [retryAfter_of_decision decides]
  exact .pure ⟨rfl, event, tells, now⟩

/-- A round whose attempt fails after the deadline is the last one. -/
theorem retryFrom_of_expiry {failure : RemoteError}
    (fails : rehearsal.answers made = .error failure)
    (verdict : executor.classifier.classify failure kind = .retryable)
    (late : policy.deadline ≤ elapsed) :
    (executor.retryFrom operation kind policy attempt (rehearsal.reading opening.world)
      (rounds + 1) attempts).Finishes session fun answer final =>
        answer = .error (.timeout operation (attempts + 1) elapsed (some failure)) ∧
          ∃ event, rehearsal.tells event (rehearsal.answers made) ∧
            rehearsal.Since opening (made + 1) elapsed (event :: events) final := by
  apply retryFrom_attempts plays since
  intro event answered tells now
  simp only [fails, retryAfter, verdict]
  apply Run.Finishes.bind (plays.time_finishes now)
  rintro time timed ⟨rfl, now⟩
  simp only [Nat.add_sub_cancel_left, if_pos late]
  exact .pure ⟨rfl, event, fails ▸ tells, now⟩

/-- A round whose attempt fails in time sleeps, and the retries go on. -/
theorem retryFrom_of_failure {meets : Except CallError α → Session World → Prop}
    (steady : policy.jitter = false)
    (undecided : executor.decision? operation kind (rehearsal.answers made) = none)
    (early : elapsed < policy.deadline)
    (again : ∀ event rested, rehearsal.tells event (rehearsal.answers made) →
      rehearsal.Since opening (made + 1)
        (elapsed + min (policy.backoff attempts) (policy.deadline - elapsed))
        (.slept (min (policy.backoff attempts) (policy.deadline - elapsed)) true ::
          event :: events) rested →
      (executor.retryFrom operation kind policy attempt (rehearsal.reading opening.world)
        rounds (attempts + 1)).Finishes rested meets) :
    (executor.retryFrom operation kind policy attempt (rehearsal.reading opening.world)
      (rounds + 1) attempts).Finishes session meets := by
  obtain ⟨failure, fails, verdict⟩ := decision?_eq_none_iff.1 undecided
  apply retryFrom_attempts plays since
  intro event answered tells now
  simp only [fails, retryAfter, verdict]
  apply Run.Finishes.bind (plays.time_finishes now)
  rintro time timed ⟨rfl, now⟩
  simp only [Nat.add_sub_cancel_left, if_neg (Nat.not_le.2 early)]
  apply Run.Finishes.bind (Environment.pauseFor_finishes steady attempts timed)
  rintro pause drawn ⟨rfl, rfl⟩
  apply Run.Finishes.bind (plays.rest_finishes now _)
  rintro completed rested ⟨rfl, now⟩
  exact again event rested tells now

end

end Executor

/-! ## The schedule -/

/-- What the first attempts of a call note if all of them fail, latest first: each attempt
is followed by its sleep. -/
inductive RetryPolicy.Spaces {World α : Type} (policy : RetryPolicy)
    (rehearsal : Rehearsal World α) : Nat → List Event → Prop
  | begin : Spaces policy rehearsal 0 []
  | next {made : Nat} {event : Event} {events : List Event} :
      Spaces policy rehearsal made events →
      rehearsal.tells event (rehearsal.answers made) →
      Spaces policy rehearsal (made + 1)
        (.slept (policy.sleepAfter made) true :: event :: events)

namespace Executor

variable {World α : Type} {executor : Executor World} {operation : String}
variable {kind : OperationKind} {policy : RetryPolicy}
variable {attempt : Run World (Except RemoteError α)}
variable {rehearsal : Rehearsal World α} {opening : Session World} {made : Nat}

/-- The retries of a call come to a result with an attempt, counted from zero.  All earlier
attempts were made and followed by their sleeps, which do not exceed the deadline. -/
def StopsAt (executor : Executor World) (operation : String) (kind : OperationKind)
    (policy : RetryPolicy) (attempt : Run World (Except RemoteError α))
    (rehearsal : Rehearsal World α) (opening : Session World) (last : Nat)
    (result : Except CallError α) : Prop :=
  policy.sleptBefore last ≤ policy.deadline ∧
  (executor.retry operation kind policy attempt).Finishes opening fun answer final =>
    answer = result ∧
      ∃ event events, policy.Spaces rehearsal last events ∧
        rehearsal.tells event (rehearsal.answers last) ∧
        rehearsal.Since opening (last + 1) (policy.sleptBefore last) (event :: events) final

/-- While attempts fail in time, the retries come to the next attempt, and all sleeps are
as scheduled. -/
theorem retryFrom_comes_to {meets : Except CallError α → Session World → Prop}
    (plays : rehearsal.Plays executor.environment attempt) (steady : policy.jitter = false)
    (undecided : ∀ earlier < made,
      executor.decision? operation kind (rehearsal.answers earlier) = none)
    (early : ∀ earlier < made, policy.sleptBefore earlier < policy.deadline) {rounds : Nat}
    (last : ∀ events session, policy.Spaces rehearsal made events →
      rehearsal.Since opening made (policy.sleptBefore made) events session →
      (executor.retryFrom operation kind policy attempt (rehearsal.reading opening.world)
        rounds made).Finishes session meets)
    {session : Session World} (begun : rehearsal.Since opening 0 0 [] session) :
    (executor.retryFrom operation kind policy attempt (rehearsal.reading opening.world)
      (rounds + made) 0).Finishes session meets := by
  -- the attempt before the next one is come to with one more round to go
  induction made generalizing rounds with
  | zero => exact last [] session .begin begun
  | succ made ih =>
      rw [Nat.add_comm made, ← Nat.add_assoc]
      apply ih (fun earlier before => undecided earlier (Nat.lt_succ_of_lt before))
        (fun earlier before => early earlier (Nat.lt_succ_of_lt before))
      intro events middle spaced since
      apply retryFrom_of_failure plays since steady (undecided made (Nat.lt_succ_self made))
        (early made (Nat.lt_succ_self made))
      intro event rested tells now
      exact last _ rested (spaced.next tells) now

section

variable {last : Nat} (plays : rehearsal.Plays executor.environment attempt)
variable (steady : policy.jitter = false) (fresh : rehearsal.made opening.world = 0)
variable (undecided : ∀ earlier < made,
  executor.decision? operation kind (rehearsal.answers earlier) = none)
variable (least : IsLeast {index | policy.IsSpentBefore index} last) (inTime : made ≤ last)
variable (enough : last < executor.rounds)

include plays steady fresh undecided least inTime enough

/-- The retries stop at an attempt with a result, if a round from there on does so. -/
theorem stopsAt_of_round {result : Except CallError α}
    (stops : ∀ rounds events session,
      rehearsal.Since opening made (policy.sleptBefore made) events session →
      (executor.retryFrom operation kind policy attempt (rehearsal.reading opening.world)
        (rounds + 1) made).Finishes session fun answer final =>
          answer = result ∧ ∃ event, rehearsal.tells event (rehearsal.answers made) ∧
            rehearsal.Since opening (made + 1) (policy.sleptBefore made) (event :: events)
              final) :
    executor.StopsAt operation kind policy attempt rehearsal opening made result := by
  refine ⟨policy.sleptBefore_le made, ?_⟩
  have begins : rehearsal.Since opening 0 0 [] opening := ⟨fresh, rfl, rfl⟩
  apply Run.Finishes.bind (plays.time_finishes begins)
  rintro started begun ⟨rfl, begins⟩
  obtain ⟨rounds, available⟩ : ∃ rounds, executor.rounds = rounds + 1 + made :=
    ⟨executor.rounds - (made + 1), by lia⟩
  rw [Nat.add_zero, available]
  refine retryFrom_comes_to plays steady undecided ?_ ?_ begins
  · intro earlier before
    exact RetryPolicy.sleptBefore_lt least (Nat.lt_of_lt_of_le before inTime)
  · intro events session spaced since
    apply (stops rounds events session since).mono
    rintro answer final ⟨same, event, tells, now⟩
    exact ⟨same, event, events, spaced, tells, now⟩

theorem stopsAt_of_decision {result : Except CallError α}
    (decides : executor.decision? operation kind (rehearsal.answers made) = some result) :
    executor.StopsAt operation kind policy attempt rehearsal opening made result :=
  stopsAt_of_round plays steady fresh undecided least inTime enough
    fun _ _ _ since => retryFrom_of_decision plays since decides

end

/-- The retries of a call keep to the schedule of their policy.  Let `last` be the least
number of pauses that add up to the deadline.  If one of the attempts up to `last`,
counted from zero, succeeds or fails in a way that repeating does not help, the first one
that does is the last one made and its answer is the result.  Otherwise the retries time out
after attempt `last`, at the deadline.  The pauses must take time and not be shortened, the
outside must let time pass by sleeping only and not cancel, and the loop must be given a
round for each attempt. -/
theorem retry_keeps_schedule (executor : Executor World) (operation : String)
    (kind : OperationKind) (policy : RetryPolicy)
    {attempt : Run World (Except RemoteError α)} {rehearsal : Rehearsal World α}
    (opening : Session World) (steady : policy.jitter = false)
    (initial : 0 < policy.initialBackoff) (longest : 0 < policy.maxBackoff)
    (plays : rehearsal.Plays executor.environment attempt)
    (fresh : rehearsal.made opening.world = 0) :
    ∃ last, IsLeast {index | policy.IsSpentBefore index} last ∧
      (last < executor.rounds →
        (∀ decisive ≤ last, ∀ result,
          (∀ earlier < decisive,
            executor.decision? operation kind (rehearsal.answers earlier) = none) →
          executor.decision? operation kind (rehearsal.answers decisive) = some result →
          executor.StopsAt operation kind policy attempt rehearsal opening decisive
            result) ∧
        ((∀ index ≤ last,
            executor.decision? operation kind (rehearsal.answers index) = none) →
          ∃ failure, rehearsal.answers last = .error failure ∧
            executor.StopsAt operation kind policy attempt rehearsal opening last
              (.error (.timeout operation (last + 1) policy.deadline (some failure))))) := by
  obtain ⟨last, least⟩ := RetryPolicy.exists_isLeast_spent initial longest
  refine ⟨last, least, fun enough => ⟨?_, fun undecided => ?_⟩⟩
  · intro decisive inTime result undecided decides
    exact stopsAt_of_decision plays steady fresh undecided least inTime enough decides
  · obtain ⟨failure, fails, verdict⟩ :=
      decision?_eq_none_iff.1 (undecided last (Nat.le_refl _))
    refine ⟨failure, fails, ?_⟩
    have before (earlier : Nat) (less : earlier < last) :=
      undecided earlier (Nat.le_of_lt less)
    apply stopsAt_of_round plays steady fresh before least (Nat.le_refl _) enough
    intro rounds events session since
    -- the sleeps before the last attempt have used up the deadline exactly
    have spent := RetryPolicy.sleptBefore_of_isSpent least.1
    rw [← spent]
    exact retryFrom_of_expiry plays since fails verdict (Nat.le_of_eq spent.symm)

end Executor

namespace Simulation

/-- An outside that keeps the time and counts the calls. -/
structure Counter where
  time : Duration := 0
  calls : Nat := 0
  deriving DecidableEq

namespace Counter

/-- Calls come to planned answers, and only sleeps take time. -/
def environment (answers : Nat → Except RemoteError Json) : Environment Counter where
  now counter := (counter.time, counter)
  date _ := World.date
  cancelled _ := false
  sleep duration counter := (true, { counter with time := counter.time + duration })
  draw counter := ((World.environment.draw {}).1, counter)
  send _ counter := (answers counter.calls, { counter with calls := counter.calls + 1 })
  describeTags _ counter := (.error (.transport "no route" none), counter)
  replaceTags _ _ counter := (.error (.transport "no route" none), counter)
  deleteTags _ _ counter := (.error (.transport "no route" none), counter)

/-- The answers to a request that is made for a purpose. -/
def rehearsal (purpose : Purpose) (request : Request)
    (answers : Nat → Except RemoteError Json) : Rehearsal Counter Json where
  reading := time
  made := calls
  answers
  tells event answer := event = .called purpose request answer

theorem plays (purpose : Purpose) (request : Request)
    (answers : Nat → Except RemoteError Json) :
    (rehearsal purpose request answers).Plays (environment answers)
      ((environment answers).call purpose request) where
  clock := by constructor <;> intros <;> rfl
  unfired _ := rfl
  completes _ _ := rfl
  made_now _ := rfl
  made_sleep _ _ := rfl
  attempts _ := ⟨_, _, rfl, rfl, rfl, rfl, _, rfl, rfl⟩

/-- The remote is busy. -/
def busy : RemoteError := .api "ResourceBusy" "try again" none

/-- Ten seconds, in which pauses grow from one second to four. -/
def policy : RetryPolicy where
  deadline := .ofSeconds 10
  initialBackoff := .ofSeconds 1
  maxBackoff := .ofSeconds 4
  jitter := false

/-- An executor of calls that a busy remote answers. -/
def executor : Executor Counter :=
  ⟨environment fun _ => .error busy, .standard, 5⟩

/-- A request without particulars. -/
def request : Request := ⟨"DescribeServer", .object []⟩

theorem busy_keeps_schedule :
    ((executor.retry "read" .read policy (executor.environment.call .readBack request)
      (.fresh {})).map fun ended => (ended.2.world, slept ended.2.journal)) =
      some (⟨.ofSeconds 10, 5⟩, .ofSeconds 10) ∧
    executor.StopsAt "read" .read policy (executor.environment.call .readBack request)
      (rehearsal .readBack request fun _ => .error busy) (.fresh {}) 4
      (.error (.timeout "read" 5 (.ofSeconds 10) (some busy))) := by
  refine ⟨by decide +kernel, ?_⟩
  obtain ⟨last, least, stops⟩ := executor.retry_keeps_schedule "read" .read policy
    (.fresh {}) rfl (by decide) (by decide)
    (plays .readBack request fun _ => .error busy) rfl
  have spent : policy.IsSpentBefore 4 := by decide
  have unspent : ∀ index < 4, ¬ policy.IsSpentBefore index := by decide
  have four : last = 4 := Nat.le_antisymm (least.2 spent)
    (Nat.le_of_not_lt fun before => unspent last before least.1)
  subst four
  obtain ⟨failure, fails, timesOut⟩ := (stops (by decide)).2 fun _ _ => rfl
  cases fails
  exact timesOut

end Counter

end Simulation

end ControlLoop
