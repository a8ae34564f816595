import ControlLoop.Proofs.Footprint
import ControlLoop.Proofs.History
import ControlLoop.Proofs.Taint

/-!
# Every pass ends

The loops of a pass have no count of their own: a call is retried, and a status read again,
for as long as the outside gives a reason to.  They end because time passes.  If the clock
moves only by the sleeps that it is asked for (`Environment.SleepsOnly`), every round of a
loop either ends it or sleeps, each sleep takes at least the first pause (or the poll
interval) or else all the time that remains, and so the time that remains runs out within a
number of rounds that the settings tell (`Settings.rounds`).

No call sleeps beyond the deadline of its policy, and no wait beyond the deadline of the
wait, reads included (`Run.EndsWithin`).

Main statement: `Reconciler.IsTimed.pursue_ends`.
-/

namespace ControlLoop

/-! ## Time and sleeps -/

/-- The time that an event asked to sleep. -/
def Event.pause : Event → Duration
  | .slept duration _ => duration
  | _ => 0

/-- The time that the sleeps in a journal asked for. -/
def slept : List Event → Duration
  | [] => 0
  | event :: journal => event.pause + slept journal

theorem slept_cons (event : Event) (journal : List Event) :
    slept (event :: journal) = event.pause + slept journal :=
  rfl

/-- The clock of an outside shows a reading of its state, which moves only by the sleeps
that the clock is asked for. -/
structure Environment.SleepsOnly {World : Type} (environment : Environment World)
    (reading : World → Duration) : Prop where
  shows : ∀ world, (environment.now world).1 = reading world
  now : ∀ world, reading (environment.now world).2 = reading world
  draw : ∀ world, reading (environment.draw world).2 = reading world
  send : ∀ request world, reading (environment.send request world).2 = reading world
  describeTags : ∀ resource world,
    reading (environment.describeTags resource world).2 = reading world
  replaceTags : ∀ resource tags world,
    reading (environment.replaceTags resource tags world).2 = reading world
  deleteTags : ∀ resource keys world,
    reading (environment.deleteTags resource keys world).2 = reading world
  sleep : ∀ duration world, (environment.sleep duration world).1 = true →
    reading (environment.sleep duration world).2 = reading world + duration

/-- All the time that passed between two sessions was slept. -/
def Session.Sleeps {World : Type} (reading : World → Duration)
    (session final : Session World) : Prop :=
  reading final.world + slept session.journal = reading session.world + slept final.journal

/-! ## Runs that end -/

namespace Run

variable {World α β : Type} {session : Session World}

/-- From a session a run ends, with an answer and a session that meet a condition. -/
def Finishes (run : Run World α) (session : Session World)
    (meets : α → Session World → Prop) : Prop :=
  ∃ answer final, run session = some (answer, final) ∧ meets answer final

/-- A run always ends. -/
def Ends (run : Run World α) : Prop :=
  ∀ session, run.Finishes session fun _ _ => True

/-- A run always ends, and its sleeps stay within a budget. -/
def EndsWithin (run : Run World α) (budget : Duration) : Prop :=
  ∀ session, run.Finishes session fun _ final =>
    slept final.journal ≤ slept session.journal + budget

/-- A run always ends, and takes no time. -/
def EndsAtOnce (run : Run World α) (reading : World → Duration) : Prop :=
  ∀ session, run.Finishes session fun _ final =>
    reading final.world = reading session.world ∧
      slept final.journal = slept session.journal

namespace Finishes

variable {meets : α → Session World → Prop}

theorem pure {answer : α} (met : meets answer session) :
    (pure answer : Run World α).Finishes session meets :=
  ⟨answer, session, rfl, met⟩

theorem bind {run : Run World α} {next : α → Run World β}
    {last : β → Session World → Prop}
    (first : run.Finishes session meets)
    (later : ∀ answer middle, meets answer middle → (next answer).Finishes middle last) :
    (run >>= next).Finishes session last := by
  obtain ⟨answer, middle, ran, met⟩ := first
  obtain ⟨result, final, ranLater, metLater⟩ := later answer middle met
  exact ⟨result, final, bind_eq_some_iff.2 ⟨answer, middle, ran, ranLater⟩, metLater⟩

theorem mono {other : α → Session World → Prop} {run : Run World α}
    (finishes : run.Finishes session meets)
    (weaker : ∀ answer final, meets answer final → other answer final) :
    run.Finishes session other := by
  obtain ⟨answer, final, ran, met⟩ := finishes
  exact ⟨answer, final, ran, weaker answer final met⟩

end Finishes

namespace EndsWithin

variable {run : Run World α} {budget : Duration}

theorem pure (answer : α) : (pure answer : Run World α).EndsWithin budget :=
  fun _ => .pure (Nat.le_add_right _ _)

theorem bind {next : α → Run World β} {rest : Duration} (first : run.EndsWithin budget)
    (later : ∀ answer, (next answer).EndsWithin rest) :
    (run >>= next).EndsWithin (budget + rest) := by
  intro session
  apply Finishes.bind (first session)
  intro answer middle within
  apply (later answer middle).mono
  intro result final withinLater
  lia

/-- What is done with an answer without a sleep spends nothing more. -/
theorem followed {next : α → Run World β} (first : run.EndsWithin budget)
    (later : ∀ answer, (next answer).EndsWithin 0) : (run >>= next).EndsWithin budget :=
  first.bind later

theorem ends (within : run.EndsWithin budget) : run.Ends :=
  fun session => (within session).mono fun _ _ _ => trivial

/-- What a run spends that has ended. -/
theorem slept_le {answer : α} {final : Session World} (within : run.EndsWithin budget)
    (ran : run session = some (answer, final)) :
    slept final.journal ≤ slept session.journal + budget := by
  obtain ⟨given, last, ended, spent⟩ := within session
  cases ended.symm.trans ran
  exact spent

end EndsWithin

namespace Ends

theorem pure (answer : α) : (pure answer : Run World α).Ends :=
  fun _ => .pure trivial

theorem bind {run : Run World α} {next : α → Run World β} (first : run.Ends)
    (later : ∀ answer, (next answer).Ends) : (run >>= next).Ends :=
  fun session => .bind (first session) fun answer middle _ => later answer middle

end Ends

end Run

/-! ## The outside -/

namespace Environment

variable {World α : Type} {environment : Environment World} {reading : World → Duration}

theorem isCancelled_finishes (session : Session World) :
    environment.isCancelled.Finishes session fun _ final => final = session :=
  ⟨_, session, rfl, rfl⟩

theorem time_finishes (clock : environment.SleepsOnly reading) (session : Session World) :
    environment.time.Finishes session fun now final =>
      now = reading session.world ∧ reading final.world = reading session.world ∧
        slept final.journal = slept session.journal :=
  ⟨_, _, rfl, clock.shows session.world, clock.now session.world, rfl⟩

theorem pauseFor_finishes {policy : RetryPolicy} (steady : policy.jitter = false)
    (attempt : Nat) (session : Session World) :
    (environment.pauseFor policy attempt).Finishes session fun pause final =>
      pause = policy.backoff attempt ∧ final = session := by
  simp only [pauseFor, steady, Bool.false_eq_true, if_false]
  exact .pure ⟨rfl, rfl⟩

theorem rest_finishes (clock : environment.SleepsOnly reading) (duration : Duration)
    (session : Session World) :
    (environment.rest duration).Finishes session fun completed final =>
      slept final.journal = slept session.journal + duration ∧
        (completed = true → reading final.world = reading session.world + duration) := by
  refine ⟨_, _, rfl, ?_, clock.sleep duration session.world⟩
  simp only [slept_cons, Event.pause]
  exact Nat.add_comm _ _

theorem call_endsAtOnce (clock : environment.SleepsOnly reading) (purpose : Purpose)
    (request : Request) : (environment.call purpose request).EndsAtOnce reading := by
  intro session
  refine ⟨_, _, rfl, clock.send request session.world, ?_⟩
  simp [slept_cons, Event.pause]

theorem callTags_endsAtOnce (resource : TagResource) (call : TagCall)
    {action : World → Except RemoteError α × World}
    (still : ∀ world, reading (action world).2 = reading world) :
    (callTags resource call action).EndsAtOnce reading := by
  intro session
  refine ⟨_, _, rfl, still session.world, ?_⟩
  simp [slept_cons, Event.pause]

end Environment

/-! ## Policies -/

/-- The pauses of a policy are not shortened at random, and take time. -/
structure RetryPolicy.IsPaced (policy : RetryPolicy) : Prop where
  steady : policy.jitter = false
  positive : 0 < policy.initialBackoff
  ordered : policy.initialBackoff ≤ policy.maxBackoff

namespace RetryPolicy

/-- So many rounds are enough to use up the deadline. -/
def rounds (policy : RetryPolicy) : Nat :=
  policy.deadline / policy.initialBackoff + 2

variable {policy : RetryPolicy}

/-- No pause is shorter than the first. -/
theorem IsPaced.initialBackoff_le (paced : policy.IsPaced) (attempt : Nat) :
    policy.initialBackoff ≤ policy.backoff attempt := by
  rw [backoff]
  split
  · apply Nat.le_min.2
    refine ⟨?_, paced.ordered⟩
    rw [Nat.shiftLeft_eq]
    exact Nat.le_mul_of_pos_right _ (Nat.two_pow_pos attempt)
  · exact paced.ordered

theorem IsPaced.clampedTo (paced : policy.IsPaced) (remaining : Duration) :
    (policy.clampedTo remaining).IsPaced :=
  ⟨paced.steady, paced.positive, paced.ordered⟩

theorem rounds_clampedTo (policy : RetryPolicy) (remaining : Duration) :
    (policy.clampedTo remaining).rounds ≤ policy.rounds := by
  apply Nat.add_le_add_right
  exact Nat.div_le_div_right (Nat.min_le_left _ _)

end RetryPolicy

/-- So many rounds are enough to use up the deadline of a wait. -/
def PollPolicy.rounds (policy : PollPolicy) : Nat :=
  policy.deadline / policy.interval + 2

/-- A number of units covers a time, if there are as many as fit into it and one more. -/
theorem le_mul_of_div_lt {time unit count : Nat} (positive : 0 < unit)
    (enough : time / unit < count) : time ≤ unit * count :=
  Nat.le_of_lt (Nat.mul_comm unit count ▸ (Nat.div_lt_iff_lt_mul positive).1 enough)

/-! ## Loops -/

namespace Executor

variable {World α : Type} {executor : Executor World} {reading : World → Duration}

/-- What the retries of a call may spend, if so much time is left of their deadline. -/
structure Spends (reading : World → Duration) (left : Duration) (session : Session World)
    (answer : Except CallError α) (final : Session World) : Prop where
  atLeast : slept session.journal ≤ slept final.journal
  atMost : slept final.journal ≤ slept session.journal + left
  /-- Unless a sleep was cut short, all the time that passed was slept. -/
  sleeps : failsBy CallError.isCancelled answer = false → session.Sleeps reading final

/-- What ends without a sleep spends nothing. -/
theorem Spends.of_still {session final : Session World} {answer : Except CallError α}
    (left : Duration) (still : reading final.world = reading session.world)
    (noSleep : slept final.journal = slept session.journal) :
    Spends reading left session answer final where
  atLeast := Nat.le_of_eq noSleep.symm
  atMost := noSleep ▸ Nat.le_add_right _ _
  sleeps := fun _ => by rw [Session.Sleeps, still, noSleep]

/-- What was spent from a session on was spent from any other one that no time parts from
it. -/
theorem Spends.since {opening session final : Session World} {answer : Except CallError α}
    {left budget : Duration} (spends : Spends reading left session answer final)
    (still : reading session.world = reading opening.world)
    (noSleep : slept session.journal = slept opening.journal) (within : left ≤ budget) :
    Spends reading budget opening answer final where
  atLeast := noSleep ▸ spends.atLeast
  atMost := by
    have atMost := spends.atMost
    lia
  sleeps := by
    intro notCancelled
    have sleptAll := spends.sleeps notCancelled
    rwa [Session.Sleeps, still, noSleep] at sleptAll

section

variable {operation : String} {kind : OperationKind} {policy : RetryPolicy}
variable {attempt : Run World (Except RemoteError α)} {started : Duration}
variable {rounds attempts : Nat} {session : Session World} {budget : Duration}

variable (clock : executor.environment.SleepsOnly reading) (paced : policy.IsPaced)
variable (left : budget = policy.deadline - (reading session.world - started))

-- the retries go on after a pause: at least the first one, or all the time that is left
variable (again : ∀ pause rested, 0 < pause → min policy.initialBackoff budget ≤ pause →
  pause ≤ budget → reading rested.world = reading session.world + pause →
  slept rested.journal = slept session.journal + pause →
  (executor.retryFrom operation kind policy attempt started rounds
    (attempts + 1)).Finishes rested (Spends reading (budget - pause) rested))

include clock paced left again

theorem retryAfter_finishes (answer : Except RemoteError α) {answered : Session World}
    (still : reading answered.world = reading session.world)
    (noSleep : slept answered.journal = slept session.journal) :
    (executor.retryAfter operation kind policy attempt started rounds attempts
      answer).Finishes answered (Spends reading budget session) := by
  cases answer with
  | ok result => exact .pure (.of_still budget still noSleep)
  | error failure =>
      rw [retryAfter]
      cases executor.classifier.classify failure kind with
      | nonRetryable => exact .pure (.of_still budget still noSleep)
      | fatal => exact .pure (.of_still budget still noSleep)
      | retryable =>
          apply Run.Finishes.bind (Environment.time_finishes clock answered)
          rintro now timed ⟨rfl, still', noSleep'⟩
          rw [still] at still' ⊢
          rw [noSleep] at noSleep'
          dsimp only
          split
          · exact .pure (.of_still budget still' noSleep')
          next early =>
            rw [← left]
            apply Run.Finishes.bind
              (Environment.pauseFor_finishes paced.steady attempts timed)
            rintro pause drawn ⟨rfl, rfl⟩
            have longEnough := paced.initialBackoff_le attempts
            have positive := paced.positive
            apply Run.Finishes.bind (Environment.rest_finishes clock _ drawn)
            rintro completed rested ⟨sleeps, moves⟩
            rw [noSleep'] at sleeps
            rw [still'] at moves
            cases completed with
            | false =>
                refine .pure ⟨by lia, by lia, fun notCancelled => ?_⟩
                cases notCancelled
            | true =>
                have moved := moves rfl
                apply (again _ rested (by lia) (by lia) (by lia) moved sleeps).mono
                intro answer final spends
                have atLeast := spends.atLeast
                have atMost := spends.atMost
                refine ⟨by lia, by lia, fun notCancelled => ?_⟩
                have sleptAll := spends.sleeps notCancelled
                rw [Session.Sleeps] at sleptAll ⊢
                lia

/-- One round of the retries: either it ends them, or it sleeps and they go on. -/
theorem retryFrom_round (atOnce : attempt.EndsAtOnce reading) :
    (executor.retryFrom operation kind policy attempt started (rounds + 1)
      attempts).Finishes session (Spends reading budget session) := by
  rw [retryFrom_succ]
  apply Run.Finishes.bind (Environment.isCancelled_finishes session)
  rintro cancelled middle rfl
  cases cancelled with
  | true => exact .pure (.of_still budget rfl rfl)
  | false =>
      apply Run.Finishes.bind (atOnce middle)
      rintro answer answered ⟨still, noSleep⟩
      exact retryAfter_finishes clock paced left again answer still noSleep

end

theorem retryFrom_finishes (clock : executor.environment.SleepsOnly reading)
    {operation : String} {kind : OperationKind} {policy : RetryPolicy}
    {attempt : Run World (Except RemoteError α)} {started : Duration}
    {rounds attempts : Nat} {session : Session World}
    (paced : policy.IsPaced) (atOnce : attempt.EndsAtOnce reading)
    (begun : started ≤ reading session.world)
    (enough : policy.deadline - (reading session.world - started) ≤
      policy.initialBackoff * rounds) :
    (executor.retryFrom operation kind policy attempt started (rounds + 1)
      attempts).Finishes session
      (Spends reading (policy.deadline - (reading session.world - started)) session) := by
  induction rounds generalizing attempts session with
  | zero =>
      refine retryFrom_round clock paced rfl ?_ atOnce
      intro pause rested positive _ small _ _
      rw [Nat.mul_zero] at enough
      lia
  | succ rounds ih =>
      refine retryFrom_round clock paced rfl ?_ atOnce
      intro pause rested _ long small moved _
      have less : policy.deadline - (reading rested.world - started) =
          policy.deadline - (reading session.world - started) - pause := by
        lia
      rw [← less]
      rw [Nat.mul_succ] at enough
      apply ih
      · lia
      · lia

theorem retry_finishes (clock : executor.environment.SleepsOnly reading)
    {policy : RetryPolicy} {attempt : Run World (Except RemoteError α)}
    (operation : String) (kind : OperationKind) (paced : policy.IsPaced)
    (atOnce : attempt.EndsAtOnce reading) (enough : policy.rounds ≤ executor.rounds)
    (session : Session World) :
    (executor.retry operation kind policy attempt).Finishes session
      (Spends reading policy.deadline session) := by
  apply Run.Finishes.bind (Environment.time_finishes clock session)
  rintro started begun ⟨rfl, still, noSleep⟩
  obtain ⟨rounds, available⟩ : ∃ rounds, executor.rounds = rounds + 1 :=
    Nat.exists_eq_add_of_le' (Nat.le_trans (Nat.le_add_left 1 _) enough)
  have covered : policy.deadline - (reading begun.world - reading session.world) ≤
      policy.initialBackoff * rounds := by
    rw [still, Nat.sub_self, Nat.sub_zero]
    apply le_mul_of_div_lt paced.positive
    rw [RetryPolicy.rounds] at enough
    lia
  rw [available]
  apply (retryFrom_finishes clock paced atOnce (Nat.le_of_eq still.symm) covered).mono
  intro answer final spends
  exact spends.since still noSleep (Nat.sub_le _ _)

theorem retry_endsWithin (clock : executor.environment.SleepsOnly reading)
    {policy : RetryPolicy} {attempt : Run World (Except RemoteError α)}
    (operation : String) (kind : OperationKind) (paced : policy.IsPaced)
    (atOnce : attempt.EndsAtOnce reading) (enough : policy.rounds ≤ executor.rounds) :
    (executor.retry operation kind policy attempt).EndsWithin policy.deadline :=
  fun session =>
    (retry_finishes clock operation kind paced atOnce enough session).mono fun _ _ => Spends.atMost

/-- A status read that tells a status was not cut short. -/
theorem notCancelled_of_statusOf {operation : String} {polls : Nat} {elapsed : Duration}
    {answer : Except CallError ObservedStatus} {status : ObservedStatus}
    (told : statusOf operation polls elapsed answer = .ok status) :
    failsBy CallError.isCancelled answer = false := by
  cases answer with
  | ok read => rfl
  | error error =>
      cases error with
      | cancelled name => cases told
      | _ => rfl

section

variable {operation : String} {target : Target} {policy : PollPolicy}
variable {read : Run World (Except RemoteError ObservedStatus)} {started : Duration}
variable {rounds polls : Nat} {session : Session World} {budget : Duration}

variable (clock : executor.environment.SleepsOnly reading) (positive : 0 < policy.interval)
variable (begun : started ≤ reading session.world)
variable (left : budget = policy.deadline - (reading session.world - started))

-- the wait goes on after some time, all of it slept: at least the poll interval, or all the
-- time that is left
variable (again : ∀ pause rested, 0 < pause → min policy.interval budget ≤ pause →
  pause ≤ budget → reading rested.world = reading session.world + pause →
  slept rested.journal = slept session.journal + pause →
  (executor.awaitFrom operation target policy read started rounds
    (polls + 1)).Finishes rested fun _ final =>
      slept final.journal ≤ slept rested.journal + (budget - pause))

include clock positive begun left again

theorem awaitAfter_finishes {answer : Except CallError ObservedStatus}
    {answered : Session World} (spends : Spends reading budget session answer answered) :
    (executor.awaitAfter operation target policy read started rounds polls
      answer).Finishes answered fun _ final =>
        slept final.journal ≤ slept session.journal + budget := by
  have atLeast := spends.atLeast
  have atMost := spends.atMost
  apply Run.Finishes.bind (Environment.time_finishes clock answered)
  rintro later clocked ⟨rfl, still, noSleep⟩
  have within : slept clocked.journal ≤ slept session.journal + budget := by
    lia
  dsimp only
  cases told : statusOf operation (polls + 1) (reading answered.world - started) answer with
  | error failure => exact .pure within
  | ok status =>
      have sleptAll := spends.sleeps (notCancelled_of_statusOf told)
      rw [Session.Sleeps, ← still, ← noSleep] at sleptAll
      dsimp only
      cases target.evaluate status with
      | reached => exact .pure within
      | failed status => exact .pure within
      | pending =>
          dsimp only
          rw [← still]
          split
          · exact .pure within
          next early =>
            apply Run.Finishes.bind (Environment.rest_finishes clock _ clocked)
            rintro completed rested ⟨sleeps, moves⟩
            cases completed with
            | false => exact .pure (by lia)
            | true =>
                have moved := moves rfl
                apply (again (reading rested.world - reading session.world) rested (by lia)
                  (by lia) (by lia) (by lia) (by lia)).mono
                intro answer final spent
                lia

/-- One round of a wait: either it ends the wait, or time is slept and it goes on. -/
theorem awaitFrom_round (paced : policy.read.IsPaced) (atOnce : read.EndsAtOnce reading)
    (enough : policy.read.rounds ≤ executor.rounds) :
    (executor.awaitFrom operation target policy read started (rounds + 1)
      polls).Finishes session fun _ final =>
        slept final.journal ≤ slept session.journal + budget := by
  rw [awaitFrom_succ]
  apply Run.Finishes.bind (Environment.isCancelled_finishes session)
  rintro cancelled middle rfl
  cases cancelled with
  | true => exact .pure (Nat.le_add_right _ _)
  | false =>
      apply Run.Finishes.bind (Environment.time_finishes clock middle)
      rintro now timed ⟨rfl, still, noSleep⟩
      rw [← left]
      apply Run.Finishes.bind (retry_finishes clock operation .read (paced.clampedTo budget)
        atOnce (Nat.le_trans (policy.read.rounds_clampedTo budget) enough) timed)
      intro answer answered spends
      exact awaitAfter_finishes clock positive begun left again
        (spends.since still noSleep (Nat.min_le_right _ _))

end

theorem awaitFrom_finishes (clock : executor.environment.SleepsOnly reading)
    {operation : String} {target : Target} {policy : PollPolicy}
    {read : Run World (Except RemoteError ObservedStatus)} {started : Duration}
    {rounds polls : Nat} {session : Session World}
    (paced : policy.read.IsPaced) (positive : 0 < policy.interval)
    (atOnce : read.EndsAtOnce reading) (enough : policy.read.rounds ≤ executor.rounds)
    (begun : started ≤ reading session.world)
    (covered : policy.deadline - (reading session.world - started) ≤
      policy.interval * rounds) :
    (executor.awaitFrom operation target policy read started (rounds + 1)
      polls).Finishes session fun _ final =>
        slept final.journal ≤
          slept session.journal + (policy.deadline - (reading session.world - started)) := by
  induction rounds generalizing polls session with
  | zero =>
      refine awaitFrom_round clock positive begun rfl ?_ paced atOnce enough
      intro pause rested positive _ small _ _
      rw [Nat.mul_zero] at covered
      lia
  | succ rounds ih =>
      refine awaitFrom_round clock positive begun rfl ?_ paced atOnce enough
      intro pause rested _ long small moved _
      have less : policy.deadline - (reading rested.world - started) =
          policy.deadline - (reading session.world - started) - pause := by
        lia
      rw [← less]
      rw [Nat.mul_succ] at covered
      apply ih
      · lia
      · lia

theorem await_endsWithin (clock : executor.environment.SleepsOnly reading)
    {policy : PollPolicy} {read : Run World (Except RemoteError ObservedStatus)}
    (operation : String) (target : Target) (paced : policy.read.IsPaced)
    (positive : 0 < policy.interval) (atOnce : read.EndsAtOnce reading)
    (enoughReads : policy.read.rounds ≤ executor.rounds)
    (enough : policy.rounds ≤ executor.rounds) :
    (executor.await operation target policy read).EndsWithin policy.deadline := by
  intro session
  apply Run.Finishes.bind (Environment.time_finishes clock session)
  rintro started begun ⟨rfl, still, noSleep⟩
  obtain ⟨rounds, available⟩ : ∃ rounds, executor.rounds = rounds + 1 :=
    Nat.exists_eq_add_of_le' (Nat.le_trans (Nat.le_add_left 1 _) enough)
  have covered : policy.deadline - (reading begun.world - reading session.world) ≤
      policy.interval * rounds := by
    rw [still, Nat.sub_self, Nat.sub_zero]
    apply le_mul_of_div_lt positive
    rw [PollPolicy.rounds] at enough
    lia
  rw [available]
  apply (awaitFrom_finishes clock paced positive atOnce enoughReads (Nat.le_of_eq still.symm)
    covered).mono
  intro answer final spent
  rwa [still, noSleep, Nat.sub_self, Nat.sub_zero] at spent

/-! ## Tags -/

theorem describeTags_endsWithin (clock : executor.environment.SleepsOnly reading)
    {policy : RetryPolicy} (resource : TagResource) (paced : policy.IsPaced)
    (enough : policy.rounds ≤ executor.rounds) :
    (executor.describeTags resource policy).EndsWithin policy.deadline :=
  .followed (retry_endsWithin clock _ _ paced
    (Environment.callTags_endsAtOnce resource .describe (clock.describeTags resource)) enough)
    fun _ => .pure _

theorem replaceTags_endsWithin (clock : executor.environment.SleepsOnly reading)
    {policy : RetryPolicy} (resource : TagResource) (tags : TagSet) (paced : policy.IsPaced)
    (enough : policy.rounds ≤ executor.rounds) :
    (executor.replaceTags resource tags policy).EndsWithin policy.deadline := by
  rw [replaceTags]
  split
  · exact .pure _
  · exact .followed (retry_endsWithin clock _ _ paced
      (Environment.callTags_endsAtOnce resource _ (clock.replaceTags resource tags)) enough)
      fun _ => .pure _

theorem deleteTags_endsWithin (clock : executor.environment.SleepsOnly reading)
    {policy : RetryPolicy} (resource : TagResource) (replaced : Nat) (keys : KeySet)
    (paced : policy.IsPaced) (enough : policy.rounds ≤ executor.rounds) :
    (executor.deleteTags resource replaced keys policy).EndsWithin policy.deadline := by
  rw [deleteTags]
  split
  · exact .pure _
  · exact .followed (retry_endsWithin clock _ _ paced
      (Environment.callTags_endsAtOnce resource _ (clock.deleteTags resource keys)) enough)
      fun _ => .pure _

/-- A change of tags is made by two calls. -/
theorem syncTags_endsWithin (clock : executor.environment.SleepsOnly reading)
    {policy : RetryPolicy} (resource : TagResource) (desired observed : TagSet)
    (paced : policy.IsPaced) (enough : policy.rounds ≤ executor.rounds) :
    (executor.syncTags resource desired observed policy).EndsWithin
      (policy.deadline + policy.deadline) := by
  rw [syncTags]
  split
  · exact .pure _
  · refine .followed ?_ fun _ => .pure _
    apply Run.EndsWithin.bind (replaceTags_endsWithin clock resource _ paced enough)
    intro answer
    cases answer with
    | error error => exact .pure _
    | ok done => exact deleteTags_endsWithin clock resource _ _ paced enough

end Executor

/-! ## Settings -/

namespace Settings

/-- So many rounds are enough for every loop of a pass. -/
def rounds (settings : Settings) : Nat :=
  max (max settings.readPolicy.rounds settings.writePolicy.rounds) settings.pollPolicy.rounds

variable {settings : Settings}

/-- What the check of settings ensures, in nanoseconds. -/
theorem positive_of_validate (valid : settings.validate = .ok ()) :
    0 < settings.readPolicy.initialBackoff ∧
      settings.readPolicy.initialBackoff ≤ settings.readPolicy.maxBackoff ∧
      0 < settings.pollPolicy.interval := by
  obtain ⟨positive, ordered, interval⟩ := validate_eq_ok_iff.1 valid
  rw [UInt64.lt_iff_toNat_lt] at positive interval
  rw [UInt64.le_iff_toNat_le] at ordered
  simp only [UInt64.toNat_zero] at positive interval
  simp only [readPolicy, retryPolicy, pollPolicy, Duration.ofMilliseconds]
  exact ⟨by lia, by lia, by lia⟩

/-- Every retry policy of checked settings without jitter is paced. -/
theorem isPaced_of_validate (valid : settings.validate = .ok ())
    (steady : settings.jitter = false) (deadline : Duration) :
    (settings.retryPolicy deadline).IsPaced :=
  have ⟨positive, ordered, _⟩ := positive_of_validate valid
  ⟨steady, positive, ordered⟩

end Settings

/-! ## Steps -/

namespace Reconciler

variable {World : Type} {reconciler : Reconciler World} {adapter : Adapter}
variable {reading : World → Duration}

/-- A reconciler with checked settings, on a clock that moves by sleeps only, and with
enough rounds for its loops. -/
structure IsTimed (reconciler : Reconciler World) (reading : World → Duration) : Prop where
  clock : reconciler.executor.environment.SleepsOnly reading
  valid : reconciler.settings.validate = .ok ()
  steady : reconciler.settings.jitter = false
  enough : reconciler.settings.rounds ≤ reconciler.executor.rounds

namespace IsTimed

variable (timed : reconciler.IsTimed reading)

include timed

theorem readRounds : reconciler.settings.readPolicy.rounds ≤ reconciler.executor.rounds :=
  Nat.le_trans (Nat.le_trans (Nat.le_max_left _ _) (Nat.le_max_left _ _)) timed.enough

theorem writeRounds : reconciler.settings.writePolicy.rounds ≤ reconciler.executor.rounds :=
  Nat.le_trans (Nat.le_trans (Nat.le_max_right _ _) (Nat.le_max_left _ _)) timed.enough

theorem pollRounds : reconciler.settings.pollPolicy.rounds ≤ reconciler.executor.rounds :=
  Nat.le_trans (Nat.le_max_right _ _) timed.enough

theorem isPaced (deadline : Duration) :
    (reconciler.settings.retryPolicy deadline).IsPaced :=
  Settings.isPaced_of_validate timed.valid timed.steady deadline

theorem call_endsWithin (purpose : Purpose) (request : Request) :
    (reconciler.call purpose request).EndsWithin
      (reconciler.policy purpose.kind).deadline := by
  have atOnce := Environment.call_endsAtOnce timed.clock purpose request
  cases kind : purpose.kind with
  | write =>
      rw [call, kind]
      exact Executor.retry_endsWithin timed.clock _ _ (timed.isPaced _) atOnce
        timed.writeRounds
  | read =>
      rw [call, kind]
      exact Executor.retry_endsWithin timed.clock _ _ (timed.isPaced _) atOnce
        timed.readRounds
  | existenceCheck =>
      rw [call, kind]
      exact Executor.retry_endsWithin timed.clock _ _ (timed.isPaced _) atOnce
        timed.readRounds

theorem callAll_endsWithin (purpose : Purpose) (requests : List Request) :
    (reconciler.callAll purpose requests).EndsWithin
      (requests.length * (reconciler.policy purpose.kind).deadline) := by
  induction requests with
  | nil => exact .pure _
  | cons request requests ih =>
      rw [List.length_cons, Nat.succ_mul, Nat.add_comm]
      apply Run.EndsWithin.bind (timed.call_endsWithin purpose request)
      intro answer
      cases answer with
      | error error => exact .pure _
      | ok answer => exact ih

/-- A read is made by a call, and another one for the tags. -/
theorem read_endsWithin (id : Identifier) (purpose : Purpose)
    (reads : reconciler.policy purpose.kind = reconciler.settings.readPolicy) :
    (reconciler.read adapter id purpose).EndsWithin
      (reconciler.settings.readPolicy.deadline +
        reconciler.settings.readPolicy.deadline) := by
  have calls := timed.call_endsWithin purpose (adapter.readRequest id)
  rw [reads] at calls
  apply Run.EndsWithin.bind calls
  intro answer
  cases answer with
  | error error =>
      dsimp only
      split
      · exact .pure _
      · exact .pure _
  | ok answer =>
      dsimp only
      split
      · exact .pure _
      · exact .pure _
      · split
        · exact .pure _
        · apply Run.EndsWithin.followed (Executor.describeTags_endsWithin timed.clock
            _ (timed.isPaced _) timed.readRounds)
          intro tags
          cases tags with
          | error error => exact .pure _
          | ok tags => exact .pure _

theorem await_endsWithin (id : Identifier) (phase : Phase) :
    (reconciler.await adapter id phase).EndsWithin
      reconciler.settings.pollPolicy.deadline := by
  have atOnce : Run.EndsAtOnce (do
      let answer ← reconciler.executor.environment.call (.poll phase)
        (adapter.readRequest id)
      return answer.bind adapter.readStatus) reading := by
    intro session
    apply Run.Finishes.bind (Environment.call_endsAtOnce timed.clock _ _ session)
    exact fun _ _ still => .pure still
  have positive := (Settings.positive_of_validate timed.valid).2.2
  apply Run.EndsWithin.followed (Executor.await_endsWithin timed.clock _ _
    (timed.isPaced _) positive atOnce timed.readRounds timed.pollRounds)
  intro answer
  cases answer with
  | error error => exact .pure _
  | ok status =>
      intro session
      refine ⟨_, _, rfl, ?_⟩
      simp [slept_cons, Event.pause]

theorem applyTags_endsWithin (record : Record) (id : Identifier) :
    (reconciler.applyTags adapter record id).EndsWithin
      (reconciler.settings.writePolicy.deadline +
        reconciler.settings.writePolicy.deadline) := by
  rw [applyTags]
  split
  · exact .pure _
  · apply Run.EndsWithin.followed (Executor.syncTags_endsWithin timed.clock _ _ _
      (timed.isPaced _) timed.writeRounds)
    intro answer
    cases answer with
    | error error => exact .pure _
    | ok delta => exact .pure _

end IsTimed

/-! ## Every pass ends -/

theorem fail_ends (record : Record) (phase : Phase) (error : PassError) :
    (reconciler.fail record phase error).Ends :=
  fun session => ⟨_, session, rfl, trivial⟩

theorem entering_ends {record : Record} {next : RecordState} {go : Record → Run World Result}
    (ends : ∀ begun, (go begun).Ends) : (reconciler.entering record next go).Ends := by
  have dated : reconciler.executor.environment.today.Ends :=
    fun session => ⟨_, session, rfl, trivial⟩
  apply Run.Ends.bind dated
  intro date
  cases record.moveTo next date with
  | ok begun => exact ends begun
  | error refusal => exact .pure _

namespace IsTimed

variable (timed : reconciler.IsTimed reading)

include timed

theorem observe_ends (record : Record) (id : Identifier) (phase : Phase) :
    (reconciler.observe adapter record id phase).Ends := by
  apply entering_ends
  intro begun
  apply Run.Ends.bind (timed.read_endsWithin id .readBack rfl).ends
  intro answer
  match answer with
  | .error error => exact fail_ends _ _ _
  | .ok none => exact fail_ends _ _ _
  | .ok (some observed) => exact entering_ends fun _ => .pure _

theorem tagAndObserve_ends (record : Record) (id : Identifier) (phase : Phase) :
    (reconciler.tagAndObserve adapter record id phase).Ends := by
  apply Run.Ends.bind (timed.applyTags_endsWithin record id).ends
  intro answer
  cases answer with
  | error error => exact fail_ends _ _ _
  | ok done => exact timed.observe_ends record id phase

theorem finish_ends (record : Record) (id : Identifier) (phase : Phase) :
    (reconciler.finish adapter record id phase).Ends := by
  apply entering_ends
  intro begun
  apply Run.Ends.bind (timed.await_endsWithin id phase).ends
  intro answer
  cases answer with
  | error error => exact fail_ends _ _ _
  | ok done => exact timed.tagAndObserve_ends begun id phase

theorem create_ends (record : Record) (desired : DesiredState) :
    (reconciler.create adapter record desired).Ends := by
  apply entering_ends
  intro begun
  apply Run.Ends.bind (timed.call_endsWithin .create _).ends
  intro answer
  cases answer with
  | error error => exact fail_ends _ _ _
  | ok answer =>
      dsimp only
      split
      · exact fail_ends _ _ _
      · exact timed.finish_ends _ _ .create

theorem sendUpdates_ends (record : Record) (desired : DesiredState) (id : Identifier)
    (updates : List FieldUpdate) :
    (reconciler.sendUpdates adapter record desired id updates).Ends := by
  apply entering_ends
  intro begun
  apply Run.Ends.bind (timed.callAll_endsWithin .update _).ends
  intro answer
  cases answer with
  | error error => exact fail_ends _ _ _
  | ok done =>
      dsimp only
      split
      · exact timed.tagAndObserve_ends _ id .update
      · exact timed.finish_ends _ id .update

theorem compareAndSend_ends (schema : ResourceSchema) (record : Record)
    (desired : DesiredState) (id : Identifier) :
    (reconciler.compareAndSend adapter schema record desired id).Ends := by
  apply entering_ends
  intro compared
  split
  · exact .pure _
  · split
    · exact .pure _
    · split
      · exact entering_ends fun _ => .pure _
      · exact timed.sendUpdates_ends compared desired id _

theorem update_ends (schema : ResourceSchema) (record : Record) (desired : DesiredState)
    (id : Identifier) : (reconciler.update adapter schema record desired id).Ends := by
  apply entering_ends
  intro compared
  split
  · exact .pure _
  · split
    · exact .pure _
    · apply entering_ends
      intro begun
      apply Run.Ends.bind (timed.read_endsWithin id .refresh rfl).ends
      intro answer
      match answer with
      | .error error => exact fail_ends _ _ _
      | .ok (some observed) => exact timed.compareAndSend_ends schema _ desired id
      | .ok none => exact entering_ends fun _ => timed.create_ends _ desired

theorem reconcile_ends (record : Record) (desired : DesiredState) :
    (reconciler.reconcile adapter record desired).Ends := by
  rw [reconcile]
  split
  · exact .pure _
  · split
    · exact .pure _
    · exact .pure _
    · split
      · exact .pure _
      · split
        · split
          · exact .pure _
          · exact timed.create_ends record desired
        · split
          · exact timed.finish_ends record _ _
          · exact timed.update_ends _ record desired _

theorem finishDelete_ends (record : Record) (id : Identifier) :
    (reconciler.finishDelete adapter record id).Ends := by
  apply entering_ends
  intro begun
  apply Run.Ends.bind (timed.await_endsWithin id .delete).ends
  intro answer
  cases answer with
  | error error => exact fail_ends _ _ _
  | ok done => exact entering_ends fun _ => .pure _

theorem delete_ends (record : Record) : (reconciler.delete adapter record).Ends := by
  rw [delete]
  split
  · exact .pure _
  · exact .pure _
  · split
    · exact timed.finishDelete_ends record _
    · apply entering_ends
      intro begun
      apply Run.Ends.bind (timed.call_endsWithin .delete _).ends
      intro answer
      cases answer with
      | ok answer => exact timed.finishDelete_ends begun _
      | error error =>
          dsimp only
          split
          · exact timed.finishDelete_ends begun _
          · exact fail_ends _ _ _

theorem pursue_ends (record : Record) (goal : Goal) :
    (reconciler.pursue adapter record goal).Ends := by
  cases goal with
  | reconcile desired => exact timed.reconcile_ends record desired
  | delete => exact timed.delete_ends record

end IsTimed

end Reconciler

end ControlLoop
