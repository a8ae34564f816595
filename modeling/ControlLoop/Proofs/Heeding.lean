import ControlLoop.Proofs.Footprint
import ControlLoop.Proofs.History
import ControlLoop.Proofs.Taint

/-!
# Runs that heed a cancellation

The caller may cancel at any moment.  What happens then is told by a comparison with the
same run without the cancellation: an `Interruptible` outside counts the calls and sleeps
that begin, and cancels while one of them is in progress, or before the first.

A run heeds the cancellation (`Run.Heeds`) if up to that moment it is the very run that it
would have been, and after it either has nothing more to do with the outside, or stops: no
call begins any more, a sleep that is asked for does not take place, and the answer says
that the run was cancelled.  The loops heed a cancellation since every round checks for it
before its attempt, and every sleep tells of it.  All that is made from runs that heed
a cancellation heeds it as well, as long as what comes after a stopped run hands its answer
on at once (`Run.HandsOn`).

Main statement: `Reconciler.pursue_heeds`.
-/

namespace ControlLoop

/-! ## An outside that cancels -/

/-- The state of an outside with a caller who cancels at a chosen moment. -/
structure Interruptible (World : Type) where
  world : World
  /-- So many calls and sleeps begin until the caller cancels, while the last of them is in
  progress.  With none left the cancellation has come; without a number it never comes. -/
  patience : Option Nat

namespace Interruptible

variable {World α : Type}

/-- The world acts, and the caller has as much patience as before. -/
def lift (action : World → α × World) (state : Interruptible World) :
    α × Interruptible World :=
  ((action state.world).1, ⟨(action state.world).2, state.patience⟩)

/-- The world acts while a call or a sleep is in progress. -/
def spend (action : World → α × World) (state : Interruptible World) :
    α × Interruptible World :=
  ((action state.world).1, ⟨(action state.world).2, state.patience.map (· - 1)⟩)

/-- Sleep.  A sleep that is in progress at the cancellation is `cut` short in some way; one
that is asked for later does not begin. -/
def sleep (environment : Environment World) (cut : Duration → World → World)
    (duration : Duration) (state : Interruptible World) : Bool × Interruptible World :=
  match state.patience with
  | some 0 => (false, state)
  | some 1 => (false, ⟨cut duration state.world, some 0⟩)
  | patience =>
      (true, ⟨(environment.sleep duration state.world).2, patience.map (· - 1)⟩)

end Interruptible

/-- The same outside, for a caller who cancels at a chosen moment and no other. -/
def Environment.interruptible {World : Type} (environment : Environment World)
    (cut : Duration → World → World) : Environment (Interruptible World) where
  now := Interruptible.lift environment.now
  date state := environment.date state.world
  cancelled state := state.patience == some 0
  sleep := Interruptible.sleep environment cut
  draw := Interruptible.lift environment.draw
  send request := Interruptible.spend (environment.send request)
  describeTags resource := Interruptible.spend (environment.describeTags resource)
  replaceTags resource tags := Interruptible.spend (environment.replaceTags resource tags)
  deleteTags resource keys := Interruptible.spend (environment.deleteTags resource keys)

/-- The same retries, for a caller who cancels at a chosen moment. -/
def Executor.interruptible {World : Type} (executor : Executor World)
    (cut : Duration → World → World) : Executor (Interruptible World) :=
  ⟨executor.environment.interruptible cut, executor.classifier, executor.rounds⟩

/-- The same reconciler, for a caller who cancels at a chosen moment. -/
def Reconciler.interruptible {World : Type} (reconciler : Reconciler World)
    (cut : Duration → World → World) : Reconciler (Interruptible World) :=
  ⟨reconciler.executor.interruptible cut, reconciler.catalog, reconciler.settings⟩

/-! ## Counting calls and sleeps -/

namespace Event

/-- Whether an event is a call or a sleep, during which the caller may cancel. -/
def isAct : Event → Bool
  | .settled _ => false
  | _ => true

/-- Whether an event is a sleep that did not take place, or not to its end. -/
def isCutShort : Event → Bool
  | .slept _ completed => !completed
  | _ => false

end Event

/-- The number of calls and sleeps in a journal. -/
def acts (journal : List Event) : Nat :=
  journal.countP Event.isAct

theorem acts_append (later earlier : List Event) :
    acts (later ++ earlier) = acts later + acts earlier :=
  List.countP_append

theorem acts_cons {event : Event} (isAct : event.isAct = true) (journal : List Event) :
    acts (event :: journal) = acts journal + 1 :=
  List.countP_cons_of_pos isAct

theorem acts_le_of_adds {World : Type} {kind : Event → Prop} {session final : Session World}
    (adds : Session.Adds kind session final) : acts session.journal ≤ acts final.journal := by
  obtain ⟨events, grown, -⟩ := adds
  rw [grown, acts_append]
  exact Nat.le_add_left _ _

/-! ## Heeding a cancellation -/

namespace Run

variable {World α β : Type}

/-- How a run from a world and a journal takes a cancellation during the act of some
number, compared with the same run without a cancellation. -/
inductive Heeds (run : Run (Interruptible World) α) (stopped : α → Prop) (moment : Nat)
    (world : World) (journal : List Event) : Prop where
  /-- It has begun no further call or sleep, and ends as it would have. -/
  | ends (answer : α) (left : World) (events : List Event) :
      acts events ≤ moment →
      run ⟨⟨world, none⟩, journal⟩ = some (answer, ⟨⟨left, none⟩, events ++ journal⟩) →
      run ⟨⟨world, some moment⟩, journal⟩ =
        some (answer, ⟨⟨left, some (moment - acts events)⟩, events ++ journal⟩) →
      Heeds run stopped moment world journal
  /-- It would have gone on, but stops: all that it still does is ask for sleeps that do
  not take place. -/
  | stops (answer : α) (left : World) (later earlier : List Event) :
      stopped answer → acts earlier = moment →
      (∀ event ∈ later, event.isCutShort = true) →
      run ⟨⟨world, some moment⟩, journal⟩ =
        some (answer, ⟨⟨left, some 0⟩, later ++ earlier ++ journal⟩) →
      (∀ result final, run ⟨⟨world, none⟩, journal⟩ = some (result, final) →
        moment + acts journal < acts final.journal) →
      Heeds run stopped moment world journal

/-- A run asks nothing of the outside that the caller could wait for. -/
def IsQuiet (run : Run (Interruptible World) α) : Prop :=
  ∀ world journal, ∃ answer left, ∀ patience,
    run ⟨⟨world, patience⟩, journal⟩ = some (answer, ⟨⟨left, patience⟩, journal⟩)

/-- A run makes exactly one call. -/
def IsAttempt (run : Run (Interruptible World) α) : Prop :=
  ∀ world journal, ∃ answer left event, event.isAct = true ∧ ∀ patience,
    run ⟨⟨world, patience⟩, journal⟩ =
      some (answer, ⟨⟨left, patience.map (· - 1)⟩, event :: journal⟩)

/-- A run that is not cancelled makes a call, or it does not end. -/
def Acts (run : Run (Interruptible World) α) : Prop :=
  ∀ world journal result final, run ⟨⟨world, none⟩, journal⟩ = some (result, final) →
    acts journal < acts final.journal

/-- After the cancellation a run does nothing but answer that it was stopped. -/
def HandsOn (run : Run (Interruptible World) α) (stopped : α → Prop) : Prop :=
  ∀ world journal, ∃ answer left, stopped answer ∧
    run ⟨⟨world, some 0⟩, journal⟩ = some (answer, ⟨⟨left, some 0⟩, journal⟩)

theorem HandsOn.pure {answer : α} {stopped : α → Prop} (halts : stopped answer) :
    (pure answer : Run (Interruptible World) α).HandsOn stopped :=
  fun world _ => ⟨answer, world, halts, rfl⟩

theorem HandsOn.of_quiet {run : Run (Interruptible World) α}
    {next : α → Run (Interruptible World) β} {stopped : β → Prop} (quiet : run.IsQuiet)
    (later : ∀ answer, (next answer).HandsOn stopped) : (run >>= next).HandsOn stopped := by
  intro world journal
  obtain ⟨answer, left, ran⟩ := quiet world journal
  obtain ⟨result, last, halts, ranLater⟩ := later answer left journal
  exact ⟨result, last, halts,
    bind_eq_some_iff.2 ⟨answer, _, ran (some 0), ranLater⟩⟩

theorem IsAttempt.map {run : Run (Interruptible World) α} (attempt : run.IsAttempt)
    (answer : α → β) : (do return answer (← run)).IsAttempt := by
  intro world journal
  obtain ⟨given, left, event, isAct, ran⟩ := attempt world journal
  refine ⟨answer given, left, event, isAct, fun patience => ?_⟩
  exact bind_eq_some_iff.2 ⟨given, _, ran patience, rfl⟩

theorem IsAttempt.acts {run : Run (Interruptible World) α} (attempt : run.IsAttempt) :
    run.Acts := by
  intro world journal result final ran
  obtain ⟨answer, left, event, isAct, made⟩ := attempt world journal
  cases ran.symm.trans (made none)
  rw [acts_cons isAct]
  exact Nat.lt_succ_self _

/-- A run that acts, whatever comes after it. -/
theorem Acts.before {run : Run (Interruptible World) α}
    {next : α → Run (Interruptible World) β} (proceeds : run.Acts)
    (grows : ∀ answer, (next answer).Notes fun _ => True) : (run >>= next).Acts := by
  intro world journal result final ran
  obtain ⟨answer, middle, ranFirst, later⟩ := bind_eq_some_iff.1 ran
  have acted := proceeds _ _ _ _ ranFirst
  exact Nat.lt_of_lt_of_le acted (acts_le_of_adds (grows _ _ _ _ later))

/-- A look before a run that acts. -/
theorem Acts.of_quiet {run : Run (Interruptible World) α}
    {next : α → Run (Interruptible World) β} (quiet : run.IsQuiet)
    (acts : ∀ answer, (next answer).Acts) : (run >>= next).Acts := by
  intro world journal result final ran
  obtain ⟨answer, middle, looked, later⟩ := bind_eq_some_iff.1 ran
  obtain ⟨given, left, looks⟩ := quiet world journal
  cases looked.symm.trans (looks none)
  exact acts _ _ _ _ _ later

namespace Heeds

variable {stopped : α → Prop} {moment : Nat} {world : World} {journal : List Event}

theorem pure (answer : α) :
    (pure answer : Run (Interruptible World) α).Heeds stopped moment world journal :=
  .ends answer world [] (Nat.zero_le moment) rfl rfl

/-- A run heeds a cancellation if what is left of it does after some events that came
before the cancellation. -/
theorem after {run : Run (Interruptible World) α} (rest : Run (Interruptible World) α)
    (left : World) (events : List Event) (few : acts events ≤ moment)
    (uncut : run ⟨⟨world, none⟩, journal⟩ = rest ⟨⟨left, none⟩, events ++ journal⟩)
    (cut : run ⟨⟨world, some moment⟩, journal⟩ =
      rest ⟨⟨left, some (moment - acts events)⟩, events ++ journal⟩)
    (heeds : rest.Heeds stopped (moment - acts events) left (events ++ journal)) :
    run.Heeds stopped moment world journal := by
  cases heeds with
  | ends answer last more few' uncut' cut' =>
      have within : acts (more ++ events) ≤ moment := by
        rw [acts_append]
        omega
      refine .ends answer last (more ++ events) within ?_ ?_
      · rw [uncut, uncut', List.append_assoc]
      · rw [cut, cut', List.append_assoc, acts_append, Nat.sub_sub, Nat.add_comm (acts more)]
  | stops answer last later earlier halts many refused cut' more =>
      have reached : acts (earlier ++ events) = moment := by
        rw [acts_append]
        omega
      refine .stops answer last later (earlier ++ events) halts reached refused ?_ ?_
      · rw [cut, cut']
        simp
      · intro result final ran
        rw [uncut] at ran
        have grown := more result final ran
        rw [acts_append] at grown
        omega

/-- After a look, a run heeds a cancellation as the rest of it does. -/
theorem of_quiet {run : Run (Interruptible World) α}
    {next : α → Run (Interruptible World) β} {last : β → Prop} (quiet : run.IsQuiet)
    (later : ∀ answer left, (next answer).Heeds last moment left journal) :
    (run >>= next).Heeds last moment world journal := by
  obtain ⟨answer, left, ran⟩ := quiet world journal
  have continues (patience : Option Nat) :
      (run >>= next) ⟨⟨world, patience⟩, journal⟩ =
        next answer ⟨⟨left, patience⟩, journal⟩ := by
    simp [Bind.bind, StateT.bind, ran patience]
  exact after (next answer) left [] (Nat.zero_le moment) (continues none)
    (continues (some moment)) (later answer left)

/-- A call in progress at the cancellation is answered; the rest of the run is then as if
it had been cancelled before it began. -/
theorem of_attempt {run : Run (Interruptible World) α}
    {next : α → Run (Interruptible World) β} {last : β → Prop} (attempt : run.IsAttempt)
    (patient : 0 < moment)
    (later : ∀ answer left event,
      (next answer).Heeds last (moment - 1) left (event :: journal)) :
    (run >>= next).Heeds last moment world journal := by
  obtain ⟨answer, left, event, isAct, ran⟩ := attempt world journal
  have continues (patience : Option Nat) :
      (run >>= next) ⟨⟨world, patience⟩, journal⟩ =
        next answer ⟨⟨left, patience.map (· - 1)⟩, event :: journal⟩ := by
    simp [Bind.bind, StateT.bind, ran patience]
  have one : acts [event] = 1 := acts_cons isAct []
  apply after (next answer) left [event] (one ▸ patient) (continues none)
  · rw [one]
    exact continues (some moment)
  · rw [one]
    exact later answer left event

/-- A run that checks for the cancellation first, and then acts. -/
theorem of_check {environment : Environment World} {cut : Duration → World → World}
    {halt : α} {go : Run (Interruptible World) α} (halts : stopped halt) (proceeds : go.Acts)
    (goes : 0 < moment → go.Heeds stopped moment world journal) :
    (do
      if ← (environment.interruptible cut).isCancelled then return halt
      else go : Run (Interruptible World) α).Heeds stopped moment world journal := by
  cases moment with
  | zero =>
      refine .stops halt world [] [] halts rfl nofun rfl ?_
      intro result final ran
      have grown := proceeds world journal result final ran
      omega
  | succ moment =>
      exact after go world [] (Nat.zero_le _) rfl rfl (goes (Nat.succ_pos moment))

/-- A run that sleeps, and then acts, unless the sleep tells of the cancellation. -/
theorem of_rest {environment : Environment World} {cut : Duration → World → World}
    {duration : Duration} {halt : α} {go : Run (Interruptible World) α}
    (halts : stopped halt) (proceeds : go.Acts)
    (goes : 1 < moment → ∀ left event, go.Heeds stopped (moment - 1) left (event :: journal)) :
    (do
      if ← (environment.interruptible cut).rest duration then go
      else return halt : Run (Interruptible World) α).Heeds stopped moment world journal := by
  have isAct : (Event.slept duration true).isAct = true := rfl
  have uncut : (do
      if ← (environment.interruptible cut).rest duration then go
      else return halt : Run (Interruptible World) α) ⟨⟨world, none⟩, journal⟩ =
      go ⟨⟨(environment.sleep duration world).2, none⟩, .slept duration true :: journal⟩ :=
    rfl
  match moment with
  | 0 =>
      refine .stops halt world [.slept duration false] [] halts rfl
        (by simp [Event.isCutShort]) rfl ?_
      intro result final ran
      rw [uncut] at ran
      have grown := proceeds _ _ _ _ ran
      rw [acts_cons isAct] at grown
      omega
  | 1 =>
      refine .stops halt (cut duration world) [] [.slept duration false] halts rfl nofun
        rfl ?_
      intro result final ran
      rw [uncut] at ran
      have grown := proceeds _ _ _ _ ran
      rw [acts_cons isAct] at grown
      omega
  | moment + 2 =>
      have one : acts [Event.slept duration true] = 1 := acts_cons isAct []
      apply after go (environment.sleep duration world).2 [.slept duration true] (by omega)
        uncut
      · rw [one]
        rfl
      · rw [one]
        exact goes (by omega) _ _

/-- What comes after a run that heeds a cancellation heeds it as well, if it hands on the
answer of a run that was stopped. -/
theorem bind {run : Run (Interruptible World) α} {next : α → Run (Interruptible World) β}
    {last : β → Prop} (first : run.Heeds stopped moment world journal)
    (later : ∀ answer left events, acts events ≤ moment →
      (next answer).Heeds last (moment - acts events) left (events ++ journal))
    (handsOn : ∀ answer, stopped answer → (next answer).HandsOn last)
    (grows : ∀ answer, (next answer).Notes fun _ => True) :
    (run >>= next).Heeds last moment world journal := by
  cases first with
  | ends answer left events few uncut cut =>
      refine after (next answer) left events few ?_ ?_ (later answer left events few)
      · simp [Bind.bind, StateT.bind, uncut]
      · simp [Bind.bind, StateT.bind, cut]
  | stops answer left after earlier halts many refused cut more =>
      obtain ⟨result, rest, halted, handed⟩ :=
        handsOn answer halts left (after ++ earlier ++ journal)
      refine .stops result rest after earlier halted many refused
        (bind_eq_some_iff.2 ⟨answer, _, cut, handed⟩) ?_
      intro result final ran
      obtain ⟨given, middle, ranFirst, ranLater⟩ := bind_eq_some_iff.1 ran
      have beyond := more given middle ranFirst
      have grown := acts_le_of_adds (grows _ _ _ _ ranLater)
      omega

end Heeds

/-- A run heeds every cancellation that comes before the act of some number, wherever it
begins. -/
structure HeedsBelow (bound : Nat) (run : Run (Interruptible World) α) (stopped : α → Prop) :
    Prop where
  heeds : ∀ {moment}, moment < bound → ∀ world journal,
    run.Heeds stopped moment world journal
  grows : run.Notes fun _ => True

namespace HeedsBelow

variable {bound : Nat} {stopped : α → Prop}

theorem pure (answer : α) :
    HeedsBelow bound (pure answer : Run (Interruptible World) α) stopped :=
  ⟨fun _ _ _ => .pure answer, .pure answer⟩

theorem bind {run : Run (Interruptible World) α} {next : α → Run (Interruptible World) β}
    {last : β → Prop} (first : HeedsBelow bound run stopped)
    (later : ∀ answer, HeedsBelow bound (next answer) last)
    (handsOn : ∀ answer, stopped answer → (next answer).HandsOn last) :
    HeedsBelow bound (run >>= next) last where
  heeds := by
    intro moment early world journal
    apply (first.heeds early world journal).bind _ handsOn fun answer => (later answer).grows
    intro answer left events few
    exact (later answer).heeds (by omega) left _
  grows := .bind first.grows fun answer => (later answer).grows

theorem of_quiet {run : Run (Interruptible World) α}
    {next : α → Run (Interruptible World) β} {last : β → Prop} (quiet : run.IsQuiet)
    (grows : run.Notes fun _ => True) (later : ∀ answer, HeedsBelow bound (next answer) last) :
    HeedsBelow bound (run >>= next) last where
  heeds := fun early _ _ => .of_quiet quiet fun answer left =>
    (later answer).heeds early left _
  grows := .bind grows fun answer => (later answer).grows

end HeedsBelow

end Run

/-! ## The outside -/

namespace Environment

variable {World α : Type} {environment : Environment World} {cut : Duration → World → World}

theorem time_isQuiet : (environment.interruptible cut).time.IsQuiet :=
  fun world _ => ⟨(environment.now world).1, (environment.now world).2, fun _ => rfl⟩

theorem today_isQuiet : (environment.interruptible cut).today.IsQuiet :=
  fun world _ => ⟨environment.date world, world, fun _ => rfl⟩

theorem pauseFor_isQuiet (policy : RetryPolicy) (attempt : Nat) :
    ((environment.interruptible cut).pauseFor policy attempt).IsQuiet := by
  intro world journal
  rw [pauseFor]
  split
  · exact ⟨policy.pause attempt (environment.draw world).1, (environment.draw world).2,
      fun _ => rfl⟩
  · exact ⟨policy.backoff attempt, world, fun _ => rfl⟩

theorem call_isAttempt (purpose : Purpose) (request : Request) :
    ((environment.interruptible cut).call purpose request).IsAttempt :=
  fun world _ => ⟨(environment.send request world).1, (environment.send request world).2,
    .called purpose request (environment.send request world).1, rfl, fun _ => rfl⟩

theorem callTags_isAttempt (resource : TagResource) (call : TagCall)
    (action : World → Except RemoteError α × World) :
    (callTags resource call (Interruptible.spend action)).IsAttempt :=
  fun world _ => ⟨(action world).1, (action world).2,
    .tagged resource call (failureOf (action world).1), rfl, fun _ => rfl⟩

end Environment

/-! ## Loops -/

/-- Whether a call of the tag service was cancelled. -/
def TagError.isCancelled (error : TagError) : Bool :=
  error.source.isCancelled

/-- A result that says that the caller cancelled. -/
def StoppedBy {ε α : Type} (test : ε → Bool) (result : Except ε α) : Prop :=
  failsBy test result = true

namespace Executor

variable {World α : Type} {executor : Executor World} {cut : Duration → World → World}

theorem retryFrom_acts {operation : String} {kind : OperationKind} {policy : RetryPolicy}
    {attempt : Run (Interruptible World) (Except RemoteError α)} {started : Duration}
    {rounds attempts : Nat} (isAttempt : attempt.IsAttempt)
    (grows : attempt.Notes fun _ => True) :
    ((executor.interruptible cut).retryFrom operation kind policy attempt started rounds
      attempts).Acts := by
  intro world journal result final ran
  rcases (executor.interruptible cut).retryFrom_begins grows (fun _ _ => trivial) ran with
    ⟨cancelled, -, -⟩ | ⟨-, answer, answered, attempted, later⟩
  · cases cancelled
  · have acted := isAttempt.acts _ _ _ _ attempted
    exact Nat.lt_of_lt_of_le acted (acts_le_of_adds later)

theorem retryAfter_heeds {operation : String} {kind : OperationKind} {policy : RetryPolicy}
    {attempt : Run (Interruptible World) (Except RemoteError α)} {started : Duration}
    {rounds attempts moment : Nat} {world : World} {journal : List Event}
    (proceeds : ((executor.interruptible cut).retryFrom operation kind policy attempt started
      rounds (attempts + 1)).Acts)
    (again : 1 < moment → ∀ left journal,
      ((executor.interruptible cut).retryFrom operation kind policy attempt started rounds
        (attempts + 1)).Heeds (StoppedBy CallError.isCancelled) (moment - 1) left journal)
    (answer : Except RemoteError α) :
    ((executor.interruptible cut).retryAfter operation kind policy attempt started rounds
      attempts answer).Heeds (StoppedBy CallError.isCancelled) moment world journal := by
  cases answer with
  | ok result => exact .pure _
  | error failure =>
      rw [retryAfter]
      cases (executor.interruptible cut).classifier.classify failure kind with
      | nonRetryable => exact .pure _
      | fatal => exact .pure _
      | retryable =>
          apply Run.Heeds.of_quiet Environment.time_isQuiet
          intro now timed
          dsimp only
          split
          · exact .pure _
          · apply Run.Heeds.of_quiet (Environment.pauseFor_isQuiet policy attempts)
            intro pause drawn
            have halts : StoppedBy CallError.isCancelled
                (.error (.cancelled operation) : Except CallError α) := rfl
            apply Run.Heeds.of_rest halts proceeds
            exact fun patient rested event => again patient rested _

theorem retryFrom_heeds {operation : String} {kind : OperationKind} {policy : RetryPolicy}
    {attempt : Run (Interruptible World) (Except RemoteError α)} {started : Duration}
    {rounds attempts moment : Nat} (isAttempt : attempt.IsAttempt)
    (grows : attempt.Notes fun _ => True) (early : moment < rounds) (world : World)
    (journal : List Event) :
    ((executor.interruptible cut).retryFrom operation kind policy attempt started rounds
      attempts).Heeds (StoppedBy CallError.isCancelled) moment world journal := by
  induction rounds generalizing attempts moment world journal with
  | zero => cases early
  | succ rounds ih =>
      have again : ((executor.interruptible cut).retryFrom operation kind policy attempt
          started rounds (attempts + 1)).Notes fun _ => True :=
        (executor.interruptible cut).retryFrom_notes _ _ _ _ grows (fun _ _ => trivial) _ _
      have later := retryAfter_notes again fun _ _ => trivial
      have halts : StoppedBy CallError.isCancelled
          (.error (.cancelled operation) : Except CallError α) := rfl
      rw [retryFrom_succ]
      apply Run.Heeds.of_check halts (isAttempt.acts.before later)
      intro patient
      apply Run.Heeds.of_attempt isAttempt patient
      intro answer left event
      apply retryAfter_heeds (retryFrom_acts isAttempt grows)
      exact fun patient rested journal => ih (by omega) rested journal

theorem retry_acts {policy : RetryPolicy}
    {attempt : Run (Interruptible World) (Except RemoteError α)} (operation : String)
    (kind : OperationKind) (isAttempt : attempt.IsAttempt)
    (grows : attempt.Notes fun _ => True) :
    ((executor.interruptible cut).retry operation kind policy attempt).Acts :=
  .of_quiet Environment.time_isQuiet fun _ => retryFrom_acts isAttempt grows

theorem retry_heeds {policy : RetryPolicy}
    {attempt : Run (Interruptible World) (Except RemoteError α)} (operation : String)
    (kind : OperationKind) (isAttempt : attempt.IsAttempt)
    (grows : attempt.Notes fun _ => True) :
    Run.HeedsBelow executor.rounds
      ((executor.interruptible cut).retry operation kind policy attempt)
      (StoppedBy CallError.isCancelled) where
  heeds := fun early _ journal =>
    .of_quiet Environment.time_isQuiet fun _ left =>
      retryFrom_heeds isAttempt grows early left journal
  grows := (executor.interruptible cut).retry_notes _ _ _ grows fun _ _ => trivial

/-- A status read that was cancelled cancels the wait. -/
theorem awaitAfter_handsOn {operation : String} {target : Target} {policy : PollPolicy}
    {read : Run (Interruptible World) (Except RemoteError ObservedStatus)}
    {started : Duration} {rounds polls : Nat} {answer : Except CallError ObservedStatus}
    (stopped : StoppedBy CallError.isCancelled answer) :
    ((executor.interruptible cut).awaitAfter operation target policy read started rounds polls
      answer).HandsOn (StoppedBy PollError.isCancelled) := by
  apply Run.HandsOn.of_quiet Environment.time_isQuiet
  intro now
  cases answer with
  | ok status => cases stopped
  | error error =>
      cases error with
      | cancelled name => exact .pure rfl
      | _ => cases stopped

theorem awaitAfter_heeds {operation : String} {target : Target} {policy : PollPolicy}
    {read : Run (Interruptible World) (Except RemoteError ObservedStatus)}
    {started : Duration} {rounds polls moment : Nat} {world : World} {journal : List Event}
    (proceeds : ((executor.interruptible cut).awaitFrom operation target policy read started
      rounds (polls + 1)).Acts)
    (again : 1 < moment → ∀ left journal,
      ((executor.interruptible cut).awaitFrom operation target policy read started rounds
        (polls + 1)).Heeds (StoppedBy PollError.isCancelled) (moment - 1) left journal)
    (answer : Except CallError ObservedStatus) :
    ((executor.interruptible cut).awaitAfter operation target policy read started rounds polls
      answer).Heeds (StoppedBy PollError.isCancelled) moment world journal := by
  apply Run.Heeds.of_quiet Environment.time_isQuiet
  intro now timed
  dsimp only
  cases statusOf operation (polls + 1) (now - started) answer with
  | error failure => exact .pure _
  | ok status =>
      dsimp only
      cases target.evaluate status with
      | reached => exact .pure _
      | failed status => exact .pure _
      | pending =>
          dsimp only
          split
          · exact .pure _
          · have halts : StoppedBy PollError.isCancelled
                (.error (.cancelled operation) : Except PollError FinalStatus) := rfl
            apply Run.Heeds.of_rest halts proceeds
            exact fun patient left event => again patient left _

theorem awaitFrom_acts {operation : String} {target : Target} {policy : PollPolicy}
    {read : Run (Interruptible World) (Except RemoteError ObservedStatus)}
    {started : Duration} {rounds polls : Nat} (isAttempt : read.IsAttempt)
    (grows : read.Notes fun _ => True) :
    ((executor.interruptible cut).awaitFrom operation target policy read started rounds
      polls).Acts := by
  intro world journal result final ran
  rcases (executor.interruptible cut).awaitFrom_begins grows (fun _ _ => trivial) ran with
    ⟨cancelled, -, -⟩ | ⟨-, now, timed, answer, answered, ticked, retried, later, -⟩
  · cases cancelled
  · cases ticked
    have proceeds := retry_acts _ _ isAttempt grows _ _ _ _ retried
    exact Nat.lt_of_lt_of_le proceeds (acts_le_of_adds later)

theorem awaitFrom_heeds {operation : String} {target : Target} {policy : PollPolicy}
    {read : Run (Interruptible World) (Except RemoteError ObservedStatus)}
    {started : Duration} {rounds polls moment : Nat} (isAttempt : read.IsAttempt)
    (grows : read.Notes fun _ => True) (early : moment < rounds)
    (enough : rounds ≤ executor.rounds) (world : World) (journal : List Event) :
    ((executor.interruptible cut).awaitFrom operation target policy read started rounds
      polls).Heeds (StoppedBy PollError.isCancelled) moment world journal := by
  induction rounds generalizing polls moment world journal with
  | zero => cases early
  | succ rounds ih =>
      have halts : StoppedBy PollError.isCancelled
          (.error (.cancelled operation) : Except PollError FinalStatus) := rfl
      have again : ((executor.interruptible cut).awaitFrom operation target policy read
          started rounds (polls + 1)).Notes fun _ => True :=
        (executor.interruptible cut).awaitFrom_notes _ _ _ _ grows (fun _ _ => trivial) _ _
      have later := awaitAfter_notes again fun _ _ => trivial
      have reads (policy : RetryPolicy) : Run.HeedsBelow executor.rounds
          ((executor.interruptible cut).retry operation .read policy read)
          (StoppedBy CallError.isCancelled) := retry_heeds operation .read isAttempt grows
      rw [awaitFrom_succ]
      apply Run.Heeds.of_check halts
      · apply Run.Acts.of_quiet Environment.time_isQuiet
        exact fun now => (retry_acts operation .read isAttempt grows).before later
      · intro patient
        apply Run.Heeds.of_quiet Environment.time_isQuiet
        intro now timed
        apply ((reads _).heeds (by omega) timed journal).bind _ (fun _ => awaitAfter_handsOn)
          later
        intro answer left events few
        apply awaitAfter_heeds (awaitFrom_acts isAttempt grows)
        intro patient left journal
        exact ih (by omega) (by omega) left journal

theorem await_heeds {policy : PollPolicy}
    {read : Run (Interruptible World) (Except RemoteError ObservedStatus)}
    (operation : String) (target : Target) (isAttempt : read.IsAttempt)
    (grows : read.Notes fun _ => True) :
    Run.HeedsBelow executor.rounds
      ((executor.interruptible cut).await operation target policy read)
      (StoppedBy PollError.isCancelled) where
  heeds := fun early _ journal =>
    .of_quiet Environment.time_isQuiet fun _ left =>
      awaitFrom_heeds isAttempt grows early (Nat.le_refl _) left journal
  grows := (executor.interruptible cut).await_notes _ _ _ grows fun _ _ => trivial

/-! ## Tags -/

theorem tagError_heeds {bound : Nat} {step : TagStep} {resource : String}
    {call : Run (Interruptible World) (Except CallError α)}
    (heeds : Run.HeedsBelow bound call (StoppedBy CallError.isCancelled)) :
    Run.HeedsBelow bound (do
      let answer ← call
      return answer.mapError fun source => (⟨step, resource, source⟩ : TagError))
      (StoppedBy TagError.isCancelled) := by
  apply heeds.bind fun answer => .pure _
  intro answer stopped
  cases answer with
  | ok value => cases stopped
  | error error => exact .pure stopped

theorem callTags_heeds {call : TagCall} {action : World → Except RemoteError α × World}
    (resource : TagResource) (operation : String) (kind : OperationKind)
    (policy : RetryPolicy) :
    Run.HeedsBelow executor.rounds
      ((executor.interruptible cut).retry operation kind policy
        (Environment.callTags resource call (Interruptible.spend action)))
      (StoppedBy CallError.isCancelled) :=
  retry_heeds operation kind (Environment.callTags_isAttempt resource call action)
    (Environment.callTags_notes resource call _ fun _ => trivial)

theorem describeTags_heeds (resource : TagResource) (policy : RetryPolicy) :
    Run.HeedsBelow executor.rounds ((executor.interruptible cut).describeTags resource policy)
      (StoppedBy TagError.isCancelled) :=
  tagError_heeds (callTags_heeds resource _ _ policy)

theorem replaceTags_heeds (resource : TagResource) (tags : TagSet) (policy : RetryPolicy) :
    Run.HeedsBelow executor.rounds
      ((executor.interruptible cut).replaceTags resource tags policy)
      (StoppedBy TagError.isCancelled) := by
  rw [replaceTags]
  split
  · exact .pure _
  · exact tagError_heeds (callTags_heeds resource _ _ policy)

theorem deleteTags_heeds (resource : TagResource) (replaced : Nat) (keys : KeySet)
    (policy : RetryPolicy) :
    Run.HeedsBelow executor.rounds
      ((executor.interruptible cut).deleteTags resource replaced keys policy)
      (StoppedBy TagError.isCancelled) := by
  rw [deleteTags]
  split
  · exact .pure _
  · exact tagError_heeds (callTags_heeds resource _ _ policy)

theorem applyTags_heeds (resource : TagResource) (delta : TagDelta) (policy : RetryPolicy) :
    Run.HeedsBelow executor.rounds
      ((executor.interruptible cut).applyTags resource delta policy)
      (StoppedBy TagError.isCancelled) := by
  apply (replaceTags_heeds resource delta.toReplace policy).bind
  · intro answer
    cases answer with
    | error error => exact .pure _
    | ok done => exact deleteTags_heeds resource _ delta.toDelete policy
  · intro answer stopped
    cases answer with
    | error error => exact .pure stopped
    | ok done => cases stopped

theorem syncTags_heeds (resource : TagResource) (desired observed : TagSet)
    (policy : RetryPolicy) :
    Run.HeedsBelow executor.rounds
      ((executor.interruptible cut).syncTags resource desired observed policy)
      (StoppedBy TagError.isCancelled) := by
  rw [syncTags]
  split
  · exact .pure _
  · apply (applyTags_heeds resource _ policy).bind fun answer => .pure _
    intro answer stopped
    cases answer with
    | error error => exact .pure stopped
    | ok done => cases stopped

end Executor

/-! ## Steps -/

namespace Reconciler

variable {World : Type} {reconciler : Reconciler World} {adapter : Adapter}
variable {cut : Duration → World → World}

theorem call_heeds (purpose : Purpose) (request : Request) :
    Run.HeedsBelow reconciler.executor.rounds
      ((reconciler.interruptible cut).call purpose request)
      (StoppedBy CallError.isCancelled) :=
  Executor.retry_heeds _ _ (Environment.call_isAttempt purpose request)
    ((Environment.call_notes _ purpose request).mono fun _ _ => trivial)

theorem callAll_heeds (purpose : Purpose) (requests : List Request) :
    Run.HeedsBelow reconciler.executor.rounds
      ((reconciler.interruptible cut).callAll purpose requests)
      (StoppedBy CallError.isCancelled) := by
  induction requests with
  | nil => exact .pure _
  | cons request requests ih =>
      apply (call_heeds purpose request).bind
      · intro answer
        cases answer with
        | error error => exact .pure _
        | ok answer => exact ih
      · intro answer stopped
        cases answer with
        | error error => exact .pure stopped
        | ok answer => cases stopped

theorem read_heeds (id : Identifier) (purpose : Purpose) :
    Run.HeedsBelow reconciler.executor.rounds
      ((reconciler.interruptible cut).read adapter id purpose)
      (StoppedBy PassError.isCancelled) := by
  apply (call_heeds purpose (adapter.readRequest id)).bind
  · intro answer
    cases answer with
    | error error =>
        dsimp only
        split
        · exact .pure _
        · exact .pure _
    | ok answer =>
        dsimp only
        split
        · exact .pure _
        · exact .pure _
        · split
          · exact .pure _
          · apply (Executor.describeTags_heeds _ _).bind
            · intro tags
              cases tags with
              | error error => exact .pure _
              | ok tags => exact .pure _
            · intro tags stopped
              cases tags with
              | error error => exact .pure stopped
              | ok tags => cases stopped
  · intro answer stopped
    cases answer with
    | ok answer => cases stopped
    | error error =>
        cases error with
        | cancelled operation => exact .pure rfl
        | _ => cases stopped

/-- A mark in the journal is neither a call nor a sleep. -/
theorem note_heeds {α : Type} {bound : Nat} {stopped : α → Prop} (event : Event)
    (isMark : event.isAct = false) (answer : α) :
    Run.HeedsBelow bound (do
      Run.note event
      return answer : Run (Interruptible World) α) stopped where
  heeds := by
    intro moment early world journal
    have none : acts [event] = 0 := by simp [acts, isMark]
    refine .ends answer world [event] (none ▸ Nat.zero_le moment) rfl ?_
    rw [none]
    rfl
  grows := .bind (.note trivial) fun _ => .pure _

theorem await_heeds (id : Identifier) (phase : Phase) :
    Run.HeedsBelow reconciler.executor.rounds
      ((reconciler.interruptible cut).await adapter id phase)
      (StoppedBy PassError.isCancelled) := by
  let read : Run (Interruptible World) (Except RemoteError ObservedStatus) := do
    let answer ← (reconciler.interruptible cut).executor.environment.call (.poll phase)
      (adapter.readRequest id)
    return answer.bind adapter.readStatus
  have isAttempt : read.IsAttempt :=
    (Environment.call_isAttempt (.poll phase) (adapter.readRequest id)).map _
  have grows : read.Notes fun _ => True :=
    .bind ((Environment.call_notes _ _ _).mono fun _ _ => trivial) fun _ => .pure _
  apply (Executor.await_heeds _ _ isAttempt grows).bind
  · intro answer
    cases answer with
    | error error => exact .pure _
    | ok status => exact note_heeds (.settled phase) rfl _
  · intro answer stopped
    cases answer with
    | error error => exact .pure stopped
    | ok status => cases stopped

theorem applyTags_heeds (record : Record) (id : Identifier) :
    Run.HeedsBelow reconciler.executor.rounds
      ((reconciler.interruptible cut).applyTags adapter record id)
      (StoppedBy PassError.isCancelled) := by
  rw [applyTags]
  split
  · exact .pure _
  · apply (Executor.syncTags_heeds _ _ _ _).bind
    · intro answer
      cases answer with
      | error error => exact .pure _
      | ok delta => exact .pure _
    · intro answer stopped
      cases answer with
      | error error => exact .pure stopped
      | ok delta => cases stopped

/-! ## Passes -/

/-- A pass that ended because the caller cancelled. -/
def Stopped (result : Result) : Prop :=
  ∃ phase, result.2 = .cancelled phase

theorem fail_heeds {bound : Nat} (record : Record) (phase : Phase) (error : PassError) :
    Run.HeedsBelow bound ((reconciler.interruptible cut).fail record phase error) Stopped :=
  .of_quiet Environment.today_isQuiet (.look _) fun _ => .pure _

theorem fail_handsOn {record : Record} {phase : Phase} {error : PassError}
    (cancelled : error.isCancelled = true) :
    ((reconciler.interruptible cut).fail record phase error).HandsOn Stopped := by
  apply Run.HandsOn.of_quiet Environment.today_isQuiet
  intro date
  refine .pure ⟨phase, ?_⟩
  simp [Record.fail, cancelled]

theorem entering_heeds {bound : Nat} {record : Record} {next : RecordState}
    {go : Record → Run (Interruptible World) Result}
    (heeds : ∀ begun, Run.HeedsBelow bound (go begun) Stopped) :
    Run.HeedsBelow bound ((reconciler.interruptible cut).entering record next go) Stopped := by
  apply Run.HeedsBelow.of_quiet Environment.today_isQuiet (.look _)
  intro date
  cases record.moveTo next date with
  | ok begun => exact heeds begun
  | error refusal => exact .pure _

theorem observe_heeds (record : Record) (id : Identifier) (phase : Phase) :
    Run.HeedsBelow reconciler.executor.rounds
      ((reconciler.interruptible cut).observe adapter record id phase) Stopped := by
  apply entering_heeds
  intro begun
  apply (read_heeds id .readBack).bind
  · intro answer
    match answer with
    | .error error => exact fail_heeds _ _ _
    | .ok none => exact fail_heeds _ _ _
    | .ok (some observed) => exact entering_heeds fun _ => .pure _
  · intro answer stopped
    cases answer with
    | error error => exact fail_handsOn stopped
    | ok found => cases stopped

theorem tagAndObserve_heeds (record : Record) (id : Identifier) (phase : Phase) :
    Run.HeedsBelow reconciler.executor.rounds
      ((reconciler.interruptible cut).tagAndObserve adapter record id phase) Stopped := by
  apply (applyTags_heeds record id).bind
  · intro answer
    cases answer with
    | error error => exact fail_heeds _ _ _
    | ok done => exact observe_heeds record id phase
  · intro answer stopped
    cases answer with
    | error error => exact fail_handsOn stopped
    | ok done => cases stopped

theorem finish_heeds (record : Record) (id : Identifier) (phase : Phase) :
    Run.HeedsBelow reconciler.executor.rounds
      ((reconciler.interruptible cut).finish adapter record id phase) Stopped := by
  apply entering_heeds
  intro begun
  apply (await_heeds id phase).bind
  · intro answer
    cases answer with
    | error error => exact fail_heeds _ _ _
    | ok done => exact tagAndObserve_heeds begun id phase
  · intro answer stopped
    cases answer with
    | error error => exact fail_handsOn stopped
    | ok done => cases stopped

theorem create_heeds (record : Record) (desired : DesiredState) :
    Run.HeedsBelow reconciler.executor.rounds
      ((reconciler.interruptible cut).create adapter record desired) Stopped := by
  apply entering_heeds
  intro begun
  apply (call_heeds .create _).bind
  · intro answer
    cases answer with
    | error error => exact fail_heeds _ _ _
    | ok answer =>
        dsimp only
        split
        · exact fail_heeds _ _ _
        · exact finish_heeds _ _ .create
  · intro answer stopped
    cases answer with
    | error error => exact fail_handsOn stopped
    | ok answer => cases stopped

theorem sendUpdates_heeds (record : Record) (desired : DesiredState) (id : Identifier)
    (updates : List FieldUpdate) :
    Run.HeedsBelow reconciler.executor.rounds
      ((reconciler.interruptible cut).sendUpdates adapter record desired id updates)
      Stopped := by
  apply entering_heeds
  intro begun
  apply (callAll_heeds .update _).bind
  · intro answer
    cases answer with
    | error error => exact fail_heeds _ _ _
    | ok done =>
        dsimp only
        split
        · exact tagAndObserve_heeds _ id .update
        · exact finish_heeds _ id .update
  · intro answer stopped
    cases answer with
    | error error => exact fail_handsOn stopped
    | ok done => cases stopped

theorem compareAndSend_heeds (schema : ResourceSchema) (record : Record)
    (desired : DesiredState) (id : Identifier) :
    Run.HeedsBelow reconciler.executor.rounds
      ((reconciler.interruptible cut).compareAndSend adapter schema record desired id)
      Stopped := by
  apply entering_heeds
  intro compared
  split
  · exact .pure _
  · split
    · exact .pure _
    · split
      · exact entering_heeds fun _ => .pure _
      · exact sendUpdates_heeds compared desired id _

theorem update_heeds (schema : ResourceSchema) (record : Record) (desired : DesiredState)
    (id : Identifier) :
    Run.HeedsBelow reconciler.executor.rounds
      ((reconciler.interruptible cut).update adapter schema record desired id) Stopped := by
  apply entering_heeds
  intro compared
  split
  · exact .pure _
  · split
    · exact .pure _
    · apply entering_heeds
      intro begun
      apply (read_heeds id .refresh).bind
      · intro answer
        match answer with
        | .error error => exact fail_heeds _ _ _
        | .ok (some observed) => exact compareAndSend_heeds schema _ desired id
        | .ok none => exact entering_heeds fun _ => create_heeds _ desired
      · intro answer stopped
        cases answer with
        | error error => exact fail_handsOn stopped
        | ok found => cases stopped

theorem reconcile_heeds (record : Record) (desired : DesiredState) :
    Run.HeedsBelow reconciler.executor.rounds
      ((reconciler.interruptible cut).reconcile adapter record desired) Stopped := by
  rw [reconcile]
  split
  · exact .pure _
  · split
    · exact .pure _
    · exact .pure _
    · split
      · exact .pure _
      · split
        · split
          · exact .pure _
          · exact create_heeds record desired
        · split
          · exact finish_heeds record _ _
          · exact update_heeds _ record desired _

theorem finishDelete_heeds (record : Record) (id : Identifier) :
    Run.HeedsBelow reconciler.executor.rounds
      ((reconciler.interruptible cut).finishDelete adapter record id) Stopped := by
  apply entering_heeds
  intro begun
  apply (await_heeds id .delete).bind
  · intro answer
    cases answer with
    | error error => exact fail_heeds _ _ _
    | ok done => exact entering_heeds fun _ => .pure _
  · intro answer stopped
    cases answer with
    | error error => exact fail_handsOn stopped
    | ok done => cases stopped

theorem delete_heeds (record : Record) :
    Run.HeedsBelow reconciler.executor.rounds
      ((reconciler.interruptible cut).delete adapter record) Stopped := by
  rw [delete]
  split
  · exact .pure _
  · exact .pure _
  · split
    · exact finishDelete_heeds record _
    · apply entering_heeds
      intro begun
      apply (call_heeds .delete _).bind
      · intro answer
        cases answer with
        | ok answer => exact finishDelete_heeds begun _
        | error error =>
            dsimp only
            split
            · exact finishDelete_heeds begun _
            · exact fail_heeds _ _ _
      · intro answer stopped
        cases answer with
        | ok answer => cases stopped
        | error error =>
            cases error with
            | cancelled operation => exact fail_handsOn rfl
            | _ => cases stopped

/-- Every pass heeds a cancellation. -/
theorem pursue_heeds (record : Record) (goal : Goal) :
    Run.HeedsBelow reconciler.executor.rounds
      ((reconciler.interruptible cut).pursue adapter record goal) Stopped := by
  cases goal with
  | reconcile desired => exact reconcile_heeds record desired
  | delete => exact delete_heeds record

end Reconciler

end ControlLoop
