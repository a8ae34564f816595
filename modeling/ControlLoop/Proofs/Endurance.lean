import ControlLoop.Proofs.Retagging
import ControlLoop.Proofs.Waiting

/-!
# Waits that hold out

A wait has a deadline, and each of its status reads has one of its own, cut down to what is
left of the first.  A wait that times out on an undecided status has used up its deadline.
One that times out within a status read has used up what the read was given, which is less
if the deadline of reads is the shorter one: then a remote that cannot be read for a while
ends the wait although time is left.

Main statement: `PollPolicy.holdsOut_iff`.
-/

namespace ControlLoop

/-! ## Clocks that never turn back -/

/-- A look at the clock shows a time between the readings of the state before and after it,
and neither sleeping nor drawing turns the reading back. -/
structure Environment.NeverTurnsBack {World : Type} (environment : Environment World)
    (reading : World → Duration) : Prop where
  before : ∀ world, reading world ≤ (environment.now world).1
  after : ∀ world, (environment.now world).1 ≤ reading (environment.now world).2
  sleep : ∀ duration world, reading world ≤ reading (environment.sleep duration world).2
  draw : ∀ world, reading world ≤ reading (environment.draw world).2

namespace Run

variable {World α : Type} {before before' : World → Prop} {after after' : α → World → Prop}

/-- A run that never turns the clock back. -/
def NeverTurnsBack (run : Run World α) (reading : World → Duration) : Prop :=
  ∀ since, run.Ensures (fun world => since ≤ reading world) fun _ world =>
    since ≤ reading world

theorem Ensures.imp {run : Run World α} (ensures : run.Ensures before after)
    (stronger : ∀ world, before' world → before world)
    (weaker : ∀ answer world, after answer world → after' answer world) :
    run.Ensures before' after' :=
  ⟨fun met ran => weaker _ _ (ensures.meets (stronger _ met) ran)⟩

end Run

namespace Environment.NeverTurnsBack

variable {World : Type} {environment : Environment World} {reading : World → Duration}

theorem clockKeeps (clock : environment.NeverTurnsBack reading) (since : Duration) :
    environment.ClockKeeps fun world => since ≤ reading world where
  now world held := held.trans ((clock.before world).trans (clock.after world))
  sleep duration world held := held.trans (clock.sleep duration world)
  draw world held := held.trans (clock.draw world)

theorem time_shows (clock : environment.NeverTurnsBack reading) (since : Duration) :
    environment.time.Ensures (fun world => since ≤ reading world) fun now world =>
      since ≤ now ∧ now ≤ reading world :=
  .act fun world held => ⟨held.trans (clock.before world), clock.after world⟩

end Environment.NeverTurnsBack

/-! ## Calls that time out -/

/-- A call that times out has taken its deadline, in the time between two readings of the
clock. -/
def CallError.Spends (deadline since now : Duration) : CallError → Prop
  | .timeout _ _ elapsed _ => deadline ≤ elapsed ∧ since + elapsed ≤ now
  | _ => True

namespace Executor

variable {World α : Type} {executor : Executor World} {reading : World → Duration}
variable {operation : String} {kind : OperationKind}
variable {attempt : Run World (Except RemoteError α)}

/-- Whatever a call comes to, the clock is not turned back. -/
theorem retry_neverTurnsBack (clock : executor.environment.NeverTurnsBack reading)
    (advances : attempt.NeverTurnsBack reading) (policy : RetryPolicy) :
    (executor.retry operation kind policy attempt).NeverTurnsBack reading := by
  intro since
  have reaches (answer : Except RemoteError α) (world : World) (held : since ≤ reading world) :
      Run.Reaches (fun world => since ≤ reading world)
        (fun _ world => since ≤ reading world) answer world := by
    cases answer <;> exact held
  have kept := (advances since).imp (fun _ => id) reaches
  apply (retry_ensures operation kind policy (clock.clockKeeps since) kept).imp fun _ => id
  intro answer world reached
  cases answer <;> exact reached

section

variable {policy : RetryPolicy} {started : Duration} {rounds attempts : Nat}

theorem retryAfter_spends (clock : executor.environment.NeverTurnsBack reading)
    (again : (executor.retryFrom operation kind policy attempt started rounds
        (attempts + 1)).Ensures (fun world => started ≤ reading world)
      (Run.FailsOnly fun world error => error.Spends policy.deadline started (reading world)))
    (answer : Except RemoteError α) :
    (executor.retryAfter operation kind policy attempt started rounds attempts
        answer).Ensures (fun world => started ≤ reading world)
      (Run.FailsOnly fun world error =>
        error.Spends policy.deadline started (reading world)) := by
  cases answer with
  | ok result => exact .pure fun _ _ => trivial
  | error failure =>
      rw [retryAfter]
      cases executor.classifier.classify failure kind with
      | nonRetryable => exact .pure fun _ _ => trivial
      | fatal => exact .pure fun _ _ => trivial
      | retryable =>
          apply Run.Ensures.bind (clock.time_shows started)
          intro now
          dsimp only
          split
          next late =>
            apply Run.Ensures.pure
            rintro world ⟨since, shown⟩
            exact ⟨late, (Nat.add_sub_cancel' since).trans_le shown⟩
          next early =>
            have keeps := clock.clockKeeps started
            have paused := (keeps.pauseFor policy attempts).imp
              (fun world (shown : started ≤ now ∧ now ≤ reading world) =>
                shown.1.trans shown.2) fun _ _ => id
            apply Run.Ensures.bind paused
            intro pause
            apply Run.Ensures.bind (keeps.rest _)
            intro completed
            cases completed with
            | true => exact again
            | false => exact .pure fun _ _ => trivial

theorem retryFrom_spends (clock : executor.environment.NeverTurnsBack reading)
    (advances : attempt.NeverTurnsBack reading) :
    (executor.retryFrom operation kind policy attempt started rounds attempts).Ensures
      (fun world => started ≤ reading world)
      (Run.FailsOnly fun world error =>
        error.Spends policy.deadline started (reading world)) := by
  induction rounds generalizing attempts with
  | zero => exact .outOfRounds
  | succ rounds ih =>
      rw [retryFrom_succ]
      have asks : executor.environment.isCancelled.Ensures
          (fun world => started ≤ reading world) fun _ world => started ≤ reading world :=
        .look fun _ => id
      apply Run.Ensures.bind asks
      intro cancelled
      cases cancelled with
      | true => exact .pure fun _ _ => trivial
      | false => exact .bind (advances started) (retryAfter_spends clock ih)

/-- A call that times out has taken its deadline since it began. -/
theorem retry_spends (clock : executor.environment.NeverTurnsBack reading)
    (advances : attempt.NeverTurnsBack reading) (since : Duration) :
    (executor.retry operation kind policy attempt).Ensures
      (fun world => since ≤ reading world)
      (Run.FailsOnly fun world error =>
        error.Spends policy.deadline since (reading world)) := by
  apply Run.Ensures.bind (clock.time_shows since)
  intro started
  constructor
  rintro session answer final ⟨later, shown⟩ ran
  have spends := (retryFrom_spends clock advances).meets shown ran
  cases answer with
  | ok result => trivial
  | error error =>
      cases error with
      | timeout name attempts elapsed lastError =>
          exact ⟨spends.1, (Nat.add_le_add_right later elapsed).trans spends.2⟩
      | _ => trivial

end

end Executor

/-! ## Waits that time out -/

namespace Executor

variable {World : Type} {executor : Executor World} {operation : String} {target : Target}
variable {policy : PollPolicy} {read : Run World (Except RemoteError ObservedStatus)}
variable {reading : World → Duration} {started elapsed : Duration}
variable {begun session answered opening final : Session World} {rounds polls count : Nat}
variable {answer : Except CallError ObservedStatus} {name : String} {last : Option String}

theorem statusOf_eq_timeout
    (failed : statusOf operation polls elapsed answer = .error (.timeout name count spent last)) :
    count = polls ∧ spent = elapsed ∧
      ∃ name attempts used failure, answer = .error (.timeout name attempts used failure) := by
  cases answer with
  | ok status => cases failed
  | error error =>
      cases error with
      | nonRetryable name source =>
          cases missing : source.isNotFound <;>
            simp [statusOf, CallError.isNotFound, missing] at failed
      | fatal name source => cases failed
      | timeout name attempts used failure =>
          cases failed
          exact ⟨rfl, rfl, name, attempts, used, failure, rfl⟩
      | cancelled name => cases failed

/-- The last status read of a wait that times out: after it the clock shows the time at which
the wait does so, and then its deadline has passed or the read itself timed out. -/
structure EndsWith (executor : Executor World) (policy : PollPolicy)
    (started : Duration) (answer : Except CallError ObservedStatus)
    (answered : Session World) (elapsed : Duration) (final : Session World) : Prop where
  shows : ∃ now, executor.environment.time answered = some (now, final) ∧
    elapsed = now - started
  spent : policy.deadline ≤ elapsed ∨
    ∃ name attempts used failure, answer = .error (.timeout name attempts used failure)

/-- A wait times out with one of its status reads. -/
theorem awaitFrom_timesOut_with
    (came : executor.ComesTo operation target policy read started begun polls session)
    (ran : executor.awaitFrom operation target policy read started rounds polls session =
      some (.error (.timeout name count elapsed last), final)) :
    ∃ earlier asked answer answered,
      executor.ComesTo operation target policy read started begun earlier asked ∧
        executor.Polls operation policy read started asked answer answered ∧
        count = earlier + 1 ∧ executor.EndsWith policy started answer answered elapsed final := by
  induction rounds generalizing polls session with
  | zero => cases ran
  | succ rounds ih =>
      rcases awaitFrom_cases ran with ⟨cancelled, -⟩ | ⟨answer, answered, polled, ran⟩
      · cases cancelled
      · obtain ⟨now, timed, ticked, after⟩ := Run.bind_eq_some_iff.1 ran
        cases told : statusOf operation (polls + 1) (now - started) answer with
        | error failure =>
            rw [told] at after
            cases after
            obtain ⟨rfl, rfl, timedOut⟩ := statusOf_eq_timeout told
            exact ⟨polls, session, answer, answered, came, polled, rfl,
              ⟨now, ticked, rfl⟩, .inr timedOut⟩
        | ok status =>
            simp only [told] at after
            cases verdict : target.evaluate status with
            | reached =>
                rw [verdict] at after
                cases after
            | failed status =>
                rw [verdict] at after
                cases after
            | pending =>
                simp only [verdict] at after
                split at after
                next late =>
                  cases after
                  exact ⟨polls, session, answer, answered, came, polled, rfl,
                    ⟨now, ticked, rfl⟩, .inl late⟩
                next early =>
                  obtain ⟨completed, rested, slept, after⟩ := Run.bind_eq_some_iff.1 after
                  cases completed with
                  | false => cases after
                  | true =>
                      exact ih (.again came polled (statusOf_eq_ok_iff.1 told) verdict
                        ticked (Nat.not_le.1 early) slept) after

/-- A wait whose status read times out does so as well. -/
theorem awaitAfter_of_timeout {attempts : Nat} {used : Duration}
    {failure : Option RemoteError}
    (ran : executor.awaitAfter operation target policy read started rounds polls
      (.error (.timeout name attempts used failure)) answered = some (result, final)) :
    ∃ now last, executor.environment.time answered = some (now, final) ∧
      result = .error (.timeout operation (polls + 1) (now - started) last) := by
  obtain ⟨now, timed, ticked, after⟩ := Run.bind_eq_some_iff.1 ran
  cases after
  exact ⟨now, _, ticked, rfl⟩

section

variable (clock : executor.environment.NeverTurnsBack reading)
variable (advances : read.NeverTurnsBack reading)

include clock advances

/-- A wait never comes to a session before it began. -/
theorem ComesTo.started_le (since : started ≤ reading begun.world)
    (came : executor.ComesTo operation target policy read started begun polls session) :
    started ≤ reading session.world := by
  have keeps := clock.clockKeeps started
  induction came with
  | begin => exact since
  | again _ polled _ _ ticked _ slept ih =>
      obtain ⟨-, now, timed, looked, retried⟩ := polled
      have asked := keeps.time.meets ih looked
      have answered := (retry_neverTurnsBack clock advances _ started).meets asked retried
      exact (keeps.rest _).meets (keeps.time.meets answered ticked) slept

/-- A wait that times out before its deadline does so within a status read, which has used
up the deadline of reads by then. -/
theorem EndsWith.of_early {asked : Session World} (since : started ≤ reading asked.world)
    (polled : executor.Polls operation policy read started asked answer answered)
    (ends : executor.EndsWith policy started answer answered elapsed final)
    (early : elapsed < policy.deadline) :
    ∃ name attempts used failure, answer = .error (.timeout name attempts used failure) ∧
      policy.read.deadline ≤ used ∧ used ≤ elapsed := by
  obtain late | ⟨name, attempts, used, failure, rfl⟩ := ends.spent
  · exact absurd early (Nat.not_lt.2 late)
  · refine ⟨name, attempts, used, failure, rfl, ?_⟩
    obtain ⟨now, ticked, rfl⟩ := ends.shows
    obtain ⟨-, began, timed, looked, retried⟩ := polled
    have shown := (clock.time_shows started).meets since looked
    -- the read was given the shorter of its own deadline and what was left of the wait's
    obtain ⟨spent, within⟩ := (retry_spends clock advances began).meets shown.2 retried
    have later := ((clock.time_shows (began + used)).meets within ticked).1
    rw [RetryPolicy.clampedTo] at spent
    lia

end

/-! ## Holding out -/

section

variable (executor : Executor World) (operation : String) (target : Target)
variable (policy : PollPolicy) (read : Run World (Except RemoteError ObservedStatus))
variable (opening : Session World)

/-- A wait that times out before its deadline does so with a status read that has used up
the deadline of reads. -/
def EndsEarlyOnReads : Prop :=
  ∀ {name polls elapsed last final},
    executor.await operation target policy read opening =
      some (.error (.timeout name polls elapsed last), final) →
    elapsed < policy.deadline →
    ∃ name attempts used failure answered,
      executor.MakesRead operation target policy read opening polls
          (.error (.timeout name attempts used failure)) answered ∧
        policy.read.deadline ≤ used ∧ used ≤ elapsed

/-- A wait does not give up early. -/
structure HoldsOut (reading : World → Duration) : Prop where
  /-- A wait that times out reports at least its deadline. -/
  timeouts : ∀ {name polls elapsed last final},
    executor.await operation target policy read opening =
      some (.error (.timeout name polls elapsed last), final) →
    policy.deadline ≤ elapsed
  /-- A status read whose attempts all failed, but might not the next time, is the last one
  only if no time is left or the caller has cancelled. -/
  transients : ∀ {position name attempts used failure answered result final},
    executor.MakesRead operation target policy read opening position
      (.error (.timeout name attempts used failure)) answered →
    executor.await operation target policy read opening = some (result, final) →
    result ≠ .error (.cancelled operation) →
    (∀ later other last,
      executor.MakesRead operation target policy read opening later other last →
        later ≤ position) →
    policy.deadline ≤ reading final.world - (executor.environment.now opening.world).1

end

section

variable (clock : executor.environment.NeverTurnsBack reading)
variable (advances : read.NeverTurnsBack reading)

include clock advances

theorem await_endsEarlyOnReads :
    executor.EndsEarlyOnReads operation target policy read opening := by
  intro name polls elapsed last final ran early
  obtain ⟨started, begun, opened, ran⟩ := Run.bind_eq_some_iff.1 ran
  have since := ((clock.time_shows (reading opening.world)).meets (Nat.le_refl _) opened).2
  obtain ⟨earlier, asked, answer, answered, came, polled, rfl, ends⟩ :=
    awaitFrom_timesOut_with .begin ran
  obtain ⟨name, attempts, used, failure, rfl, spent, within⟩ :=
    ends.of_early clock advances (came.started_le clock advances since) polled early
  exact ⟨name, attempts, used, failure, answered,
    ⟨started, begun, earlier, asked, opened, came, polled, rfl⟩, spent, within⟩

/-- A wait whose reads may take as long as the wait itself does not give up early. -/
theorem await_holdsOut (longer : policy.deadline ≤ policy.read.deadline) :
    executor.HoldsOut operation target policy read opening reading := by
  have timeouts {name polls elapsed last final}
      (ran : executor.await operation target policy read opening =
        some (.error (.timeout name polls elapsed last), final)) :
      policy.deadline ≤ elapsed := by
    apply Nat.le_of_not_lt
    intro early
    obtain ⟨_, _, used, _, _, _, spent, within⟩ :=
      await_endsEarlyOnReads clock advances ran early
    lia
  refine ⟨timeouts, ?_⟩
  intro position name attempts used failure answered result final makes ran _ _
  have enough := makes.le_rounds ran
  obtain ⟨started, begun, earlier, session, opened, came, polled, rfl⟩ := makes
  obtain ⟨rounds, after⟩ := came.await_eq opened polled enough
  obtain ⟨now, last, ticked, rfl⟩ := awaitAfter_of_timeout (after.symm.trans ran)
  have shown := ((clock.time_shows 0).meets (Nat.zero_le _) ticked).2
  cases opened
  exact (timeouts ran).trans (Nat.sub_le_sub_right shown _)

end

end Executor

/-! ## The two deadlines -/

/-- A property of waits holds with a classifier, whatever the status reads come to, wherever
neither they nor the clock turn time back. -/
def Classifier.AllWaits (classifier : Classifier)
    (property : {World : Type} → Executor World →
      Run World (Except RemoteError ObservedStatus) → Session World → (World → Duration) →
      Prop) : Prop :=
  ∀ (World : Type) (environment : Environment World) (rounds : Nat)
    (read : Run World (Except RemoteError ObservedStatus)) (opening : Session World)
    (reading : World → Duration),
    environment.NeverTurnsBack reading → read.NeverTurnsBack reading →
    property ⟨environment, classifier, rounds⟩ read opening reading

namespace Simulation.Counter

theorem neverTurnsBack (answers : Nat → Except RemoteError Json) :
    (environment answers).NeverTurnsBack time where
  before _ := Nat.le_refl _
  after _ := Nat.le_refl _
  sleep duration counter := Nat.le_add_right counter.time duration
  draw _ := Nat.le_refl _

/-- A status read that takes some time and then comes to nothing. -/
def stall (length : Duration) : Run Counter (Except RemoteError ObservedStatus) :=
  Run.act fun counter =>
    (.error (.transport "no answer" none), { counter with time := length + counter.time })

theorem stall_neverTurnsBack (length : Duration) : (stall length).NeverTurnsBack time :=
  fun _ => .act fun _ held => held.trans (Nat.le_add_left _ length)

/-- An executor with a single round for each loop. -/
def oneRound (classifier : Classifier) : Executor Counter :=
  ⟨environment fun _ => .error busy, classifier, 1⟩

/-- A call whose first attempt takes at least its deadline times out with it. -/
theorem retry_stall (classifier : Classifier) (operation : String) (kind : OperationKind)
    {policy : RetryPolicy} {length : Duration} (late : policy.deadline ≤ length) :
    (oneRound classifier).retry operation kind policy (stall length) (.fresh {}) =
      some (.error (.timeout operation 1 length (some (.transport "no answer" none))),
        ⟨⟨length, 0⟩, []⟩) := by
  have asks : (oneRound classifier).retry operation kind policy (stall length) (.fresh {}) =
      (oneRound classifier).retryAfter operation kind policy (stall length) 0 0 0
        (.error (.transport "no answer" none)) ⟨⟨length, 0⟩, []⟩ := rfl
  rw [asks, Executor.retryAfter]
  simp only [Classifier.classify]
  rw [Run.bind_of_eq_some rfl]
  exact congrFun (if_pos late) _

/-- A wait whose first read takes the whole deadline of reads times out with it. -/
theorem await_stall (classifier : Classifier) (operation : String) (target : Target)
    (policy : PollPolicy) : ∃ last final,
    (oneRound classifier).await operation target policy (stall policy.read.deadline)
        (.fresh {}) =
      some (.error (.timeout operation 1 policy.read.deadline last), final) := by
  have polled : (oneRound classifier).Polls operation policy (stall policy.read.deadline) 0
      (.fresh {}) _ _ :=
    ⟨rfl, 0, _, rfl, retry_stall classifier operation .read (Nat.min_le_left _ _)⟩
  have opened : (oneRound classifier).environment.time (.fresh {}) = some (0, .fresh {}) := rfl
  have enough : 0 < (oneRound classifier).rounds := Nat.zero_lt_one
  have came : (oneRound classifier).ComesTo operation target policy
      (stall policy.read.deadline) 0 (.fresh {}) 0 (.fresh {}) := .begin
  obtain ⟨rounds, goes⟩ := came.await_eq opened polled enough
  exact ⟨_, _, goes⟩

end Simulation.Counter

/-- A wait that times out before its deadline does so with a status read that has used up
the deadline of reads.  No wait with a policy gives up early exactly when the deadline of
reads is at least that of the wait. -/
theorem PollPolicy.holdsOut_iff (policy : PollPolicy) (classifier : Classifier)
    (operation : String) (target : Target) :
    (classifier.AllWaits fun executor read opening _ =>
      executor.EndsEarlyOnReads operation target policy read opening) ∧
    ((classifier.AllWaits fun executor read opening reading =>
      executor.HoldsOut operation target policy read opening reading) ↔
        policy.deadline ≤ policy.read.deadline) := by
  refine ⟨?_, ?_, ?_⟩
  · intro World environment rounds read opening reading clock advances
    exact Executor.await_endsEarlyOnReads clock advances
  · intro holdsOut
    obtain ⟨last, final, ran⟩ :=
      Simulation.Counter.await_stall classifier operation target policy
    have holds := holdsOut Simulation.Counter _ 1 _ (.fresh {}) _
      (Simulation.Counter.neverTurnsBack fun _ => .error Simulation.Counter.busy)
      (Simulation.Counter.stall_neverTurnsBack policy.read.deadline)
    exact holds.timeouts ran
  · intro longer World environment rounds read opening reading clock advances
    exact Executor.await_holdsOut clock advances longer

namespace Simulation.Counter

open Server (adapter ready patience)

/-- A server that is busy for so many calls and ready after that. -/
def busyFor (calls : Nat) : Environment Counter :=
  environment fun made =>
    if made < calls then .error busy else (Server.found 4 "ready").answer

/-- A read of the status of that server. -/
def watch (calls : Nat) : Run Counter (Except RemoteError ObservedStatus) := do
  let answer ← (busyFor calls).call (.poll .create) request
  return answer.bind adapter.readStatus

theorem watch_neverTurnsBack (calls : Nat) : (watch calls).NeverTurnsBack time := by
  intro since
  have called : ((busyFor calls).call (.poll .create) request).Ensures
      (fun counter => since ≤ counter.time) fun _ counter => since ≤ counter.time :=
    .bind (.act fun _ => id) fun _ => .bind (.note fun _ => id) fun _ => .pure fun _ => id
  exact .bind called fun _ => .pure fun _ => id

/-- An executor of calls to that server. -/
def watcher (calls : Nat) : Executor Counter :=
  ⟨busyFor calls, .standard, calls + 1⟩

theorem busy_server_is_waited_for :
    ((watcher 8).await "create" ready patience (watch 8) (.fresh {})).map Prod.fst =
      some (.error (.timeout "create" 1 (.ofSeconds 30)
        (some "read error: remote error [ResourceBusy]: try again"))) ∧
    (watcher 8).HoldsOut "create" ready patience (watch 8) (.fresh {}) time := by
  refine ⟨by decide +kernel, ?_⟩
  have longer : patience.deadline ≤ patience.read.deadline := by decide
  exact (patience.holdsOut_iff .standard "create" ready).2.2 longer Counter (busyFor 8) 9
    (watch 8) (.fresh {}) time (neverTurnsBack _) (watch_neverTurnsBack 8)

/-- With the standard settings, a wait for half an hour is given up after three minutes,
although the next read of the status would have found the server ready. -/
theorem busy_server_is_given_up :
    ((watcher 23).await "create" ready Server.reconciler.settings.pollPolicy (watch 23)
        (.fresh {})).map Prod.fst =
      some (.error (.timeout "create" 1 (.ofSeconds 180)
        (some "read error: remote error [ResourceBusy]: try again"))) ∧
    Server.reconciler.settings.pollPolicy.deadline = .ofSeconds 1800 ∧
    (busyFor 23).NeverTurnsBack time ∧ (watch 23).NeverTurnsBack time ∧
    ¬ (watcher 23).HoldsOut "create" ready Server.reconciler.settings.pollPolicy (watch 23)
      (.fresh {}) time := by
  have ends : ((watcher 23).await "create" ready Server.reconciler.settings.pollPolicy
        (watch 23) (.fresh {})).map Prod.fst =
      some (.error (.timeout "create" 1 (.ofSeconds 180)
        (some "read error: remote error [ResourceBusy]: try again"))) := by
    decide +kernel
  refine ⟨ends, by decide, neverTurnsBack _, watch_neverTurnsBack 23, ?_⟩
  intro holdsOut
  obtain ⟨⟨result, final⟩, ran, same⟩ := Option.map_eq_some_iff.1 ends
  cases same
  exact absurd (holdsOut.timeouts ran) (by decide)

end Simulation.Counter

end ControlLoop
