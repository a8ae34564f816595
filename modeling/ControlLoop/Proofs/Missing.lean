import ControlLoop.Proofs.Decision
import ControlLoop.Proofs.Specificity
import ControlLoop.Proofs.Stage

/-!
# Missing resources

That a resource does not exist is told by an error code, and is found out in two ways: the
failure says so itself, and a look-up in the table of rules decides that repeating the call
will not help.  Both agree as long as the rules that were added leave the codes of missing
resources alone.  So the retries of a call end with the first such answer, a wait takes it
for the status of an absent resource, a read finds nothing, and a delete goes on to wait for
its confirmation.  No other failure of a call is taken for that.

Main statement: `Reconciler.knowsMissing`.
-/

namespace ControlLoop

/-! ## Verdicts -/

/-- The code of a missing resource.  It may go on behind a dot. -/
def RemoteError.missingCode : String := "ResourceNotFound"

theorem RemoteError.isNotFoundCode_iff {code : String} :
    isNotFoundCode code = true ↔ Classifier.Covers missingCode code := by
  simp [isNotFoundCode, Classifier.Covers, missingCode]

namespace Classifier

/-- Repeating a call that found a resource missing will not help, whatever it was for. -/
def KnowsMissing (classifier : Classifier) : Prop :=
  ∀ failure kind, failure.isNotFound = true → classifier.classify failure kind = .nonRetryable

/-- No rule is for a code of missing resources. -/
def SparesMissing (rules : List (String × Verdict)) : Prop :=
  ∀ rule ∈ rules, RemoteError.isNotFoundCode rule.1 = false

variable {code stem other : String} {rules : List (String × Verdict)}

/-- Of two stems of a code, the shorter one covers the longer one. -/
theorem Covers.of_length_lt (covers : Covers stem code) (longer : Covers other code)
    (shorter : stem.length < other.length) : Covers stem other := by
  have goesOn : stem.toList ++ ['.'] <+: code.toList := by
    refine covers.resolve_left ?_
    rintro rfl
    exact Nat.not_le.2 shorter longer.length_le
  have starts : other.toList <+: code.toList := by
    rcases longer with rfl | longer
    · exact List.prefix_refl _
    · exact (List.prefix_append _ _).trans longer
  have fits : (stem.toList ++ ['.']).length ≤ other.toList.length := by
    rw [List.length_append, String.length_toList, String.length_toList]
    exact shorter
  exact .inr (List.prefix_of_prefix_length_le goesOn starts fits)

theorem latest?_of_spared (spared : SparesMissing rules)
    (missing : RemoteError.isNotFoundCode code = true) :
    standard.latest? rules code = standard.rules.get? code := by
  have unruled : KeyMap.lookup code rules.reverse = none := by
    rw [KeyMap.lookup_eq_none_iff]
    intro named
    obtain ⟨rule, member, rfl⟩ := List.mem_map.1 named
    rw [spared rule (List.mem_reverse.1 member)] at missing
    cases missing
  rw [latest?, unruled, Option.none_or]

/-- No built-in rule is for a code of missing resources that goes on behind a dot. -/
theorem standard_rule_eq_none (missing : RemoteError.isNotFoundCode code = true)
    (different : code ≠ RemoteError.missingCode) : standard.rules.get? code = none := by
  have alone : ∀ key ∈ standard.rules.keys,
      RemoteError.isNotFoundCode key = true → key = RemoteError.missingCode := by
    decide +kernel
  rw [KeyMap.get?_eq_none_iff]
  exact fun ruled => different (alone code ruled missing)

/-- The built-in rule for missing resources is the most specific one for their codes. -/
theorem mostSpecific_missing (spared : SparesMissing rules)
    (covers : Covers RemoteError.missingCode code) :
    MostSpecific (standard.latest? rules) code RemoteError.missingCode .nonRetryable where
  rules := by
    rw [latest?_of_spared spared (by decide)]
    decide +kernel
  covers := covers
  longest := by
    intro other ruled longer
    apply Nat.le_of_not_lt
    intro shorter
    have missing := RemoteError.isNotFoundCode_iff.2 (covers.of_length_lt longer shorter)
    rw [latest?_of_spared spared missing] at ruled
    refine ruled (standard_rule_eq_none missing ?_)
    rintro rfl
    exact Nat.lt_irrefl _ shorter

/-- Added rules that spare the codes of missing resources do not change their verdict. -/
theorem extended_knowsMissing (spared : SparesMissing rules) :
    (standard.extended rules).KnowsMissing := by
  intro failure kind missing
  cases failure with
  | api code message requestId =>
      have covers := RemoteError.isNotFoundCode_iff.1 (Option.any_some.symm.trans missing)
      have found : (standard.extended rules).lookup? code = some .nonRetryable := by
        rw [lookup?_eq_some_iff, funext (get?_extended standard rules)]
        exact ⟨_, mostSpecific_missing spared covers⟩
      rw [classify, found]
      rfl
  | transport message source => cases missing
  | decode message => cases missing

example : ¬ (standard.extended [("ResourceNotFound.Instance", .retryable)]).KnowsMissing := by
  intro knows
  exact absurd (knows (.api "ResourceNotFound.Instance" "" none) .read rfl) (by decide +kernel)

end Classifier

/-! ## Attempts of a call -/

namespace Executor

variable {World α : Type}

section

variable (executor : Executor World) (operation : String) (kind : OperationKind)
variable (policy : RetryPolicy) (attempt : Run World (Except RemoteError α))

/-- At a session, unless the caller has cancelled, an attempt is made and answered. -/
def Attempts (session : Session World) (answer : Except RemoteError α)
    (answered : Session World) : Prop :=
  executor.environment.cancelled session.world = false ∧
    attempt session = some (answer, answered)

/-- The retries of a call that began when the clock showed `started` come to a session,
after so many attempts that failed and may be repeated: after each of them they slept. -/
inductive RetriesTo (started : Duration) (begun : Session World) :
    Nat → Session World → Prop
  | begin : RetriesTo started begun 0 begun
  | again {attempts : Nat} {session answered timed drawn rested : Session World}
      {failure : RemoteError} {now pause : Duration} :
      RetriesTo started begun attempts session →
      executor.Attempts attempt session (.error failure) answered →
      executor.classifier.classify failure kind = .retryable →
      executor.environment.time answered = some (now, timed) →
      now - started < policy.deadline →
      executor.environment.pauseFor policy attempts timed = some (pause, drawn) →
      executor.environment.rest (min pause (policy.deadline - (now - started))) drawn =
        some (true, rested) →
      RetriesTo started begun (attempts + 1) rested

/-- The retries of a call make an attempt, whose position is counted from one. -/
def MakesAttempt (opening : Session World) (position : Nat) (answer : Except RemoteError α)
    (answered : Session World) : Prop :=
  ∃ started begun earlier session,
    executor.environment.time opening = some (started, begun) ∧
      executor.RetriesTo kind policy attempt started begun earlier session ∧
      executor.Attempts attempt session answer answered ∧ position = earlier + 1

/-- An attempt of a call is answered by a failure which says that the resource does not
exist. -/
def FindsMissing (opening : Session World) (failure : RemoteError)
    (answered : Session World) : Prop :=
  failure.isNotFound = true ∧ ∃ position ≤ executor.rounds,
    executor.MakesAttempt kind policy attempt opening position (.error failure) answered

end

variable {executor : Executor World} {operation : String} {kind : OperationKind}
variable {policy : RetryPolicy} {attempt : Run World (Except RemoteError α)}
variable {started : Duration} {begun session answered opening final : Session World}
variable {answer : Except RemoteError α} {result : Except CallError α}
variable {failure : RemoteError} {rounds attempts position : Nat}

theorem retryFrom_of_attempts
    (attempted : executor.Attempts attempt session answer answered) :
    executor.retryFrom operation kind policy attempt started (rounds + 1) attempts session =
      executor.retryAfter operation kind policy attempt started rounds attempts answer
        answered := by
  obtain ⟨asked, ran⟩ := attempted
  have looked : executor.environment.isCancelled session = some (false, session) := by
    rw [← asked]
    rfl
  rw [retryFrom_succ, Run.bind_of_eq_some looked]
  simp only [Bool.false_eq_true, if_false]
  rw [Run.bind_of_eq_some ran]

/-- A round whose attempt may be repeated is followed by the next one. -/
theorem retryAfter_of_retryable {now pause : Duration} {timed drawn rested : Session World}
    (verdict : executor.classifier.classify failure kind = .retryable)
    (ticked : executor.environment.time answered = some (now, timed))
    (early : now - started < policy.deadline)
    (paused : executor.environment.pauseFor policy attempts timed = some (pause, drawn))
    (slept : executor.environment.rest (min pause (policy.deadline - (now - started))) drawn =
      some (true, rested)) :
    executor.retryAfter operation kind policy attempt started rounds attempts (.error failure)
        answered =
      executor.retryFrom operation kind policy attempt started rounds (attempts + 1)
        rested := by
  simp only [retryAfter, verdict]
  rw [Run.bind_of_eq_some ticked]
  simp only [if_neg (Nat.not_le.2 early)]
  rw [Run.bind_of_eq_some paused, Run.bind_of_eq_some slept]
  rfl

/-- The retries of a call continue from each session that they come to. -/
theorem RetriesTo.retryFrom_eq
    (came : executor.RetriesTo kind policy attempt started begun attempts session) :
    executor.retryFrom operation kind policy attempt started (rounds + attempts) 0 begun =
      executor.retryFrom operation kind policy attempt started rounds attempts session := by
  -- the session before the last one is come to with one more round to go
  induction came generalizing rounds with
  | begin => rfl
  | @again attempts _ _ _ _ _ _ _ _ _ attempted verdict ticked early paused slept ih =>
      have oneMore : rounds + (attempts + 1) = rounds + 1 + attempts := by lia
      rw [oneMore, ih, retryFrom_of_attempts attempted,
        retryAfter_of_retryable verdict ticked early paused slept]

/-- Retries that come to a result do so with the attempt that decides it, or because time ran
out or the caller cancelled. -/
theorem RetriesTo.ends
    (came : executor.RetriesTo kind policy attempt started begun attempts session)
    (ran : executor.retryFrom operation kind policy attempt started rounds attempts session =
      some (result, final)) :
    (∃ earlier last answer, earlier < rounds + attempts ∧
      executor.RetriesTo kind policy attempt started begun earlier last ∧
        executor.Attempts attempt last answer final ∧
        executor.decision? operation kind answer = some result) ∨
      ∃ error, result = .error error ∧
        (error.isTimeout = true ∨ error.isCancelled = true) := by
  -- a round that does not end the retries comes to the next one, with one round less to go
  induction rounds generalizing attempts session with
  | zero => cases ran
  | succ rounds ih =>
      rcases retryFrom_cases ran with
        ⟨-, rfl, -⟩ | ⟨asked, answer, answered, attempted, ran⟩
      · exact .inr ⟨_, rfl, .inr rfl⟩
      have made : executor.Attempts attempt session answer answered := ⟨asked, attempted⟩
      cases roundEnds_of_retryAfter ran with
      | decided decides =>
          exact .inl ⟨attempts, session, answer, by lia, came, made, decides⟩
      | expired => exact .inr ⟨_, rfl, .inl rfl⟩
      | interrupted => exact .inr ⟨_, rfl, .inr rfl⟩
      | repeated verdict ticked early paused slept ran =>
          rw [Nat.add_right_comm]
          exact ih (.again came made verdict ticked early paused slept) ran

/-- The retries of a call end with an attempt that decides. -/
theorem MakesAttempt.ends
    (makes : executor.MakesAttempt kind policy attempt opening position answer answered)
    (enough : position ≤ executor.rounds)
    (decides : executor.decision? operation kind answer = some result) :
    executor.retry operation kind policy attempt opening = some (result, answered) := by
  obtain ⟨started, begun, earlier, session, ticked, came, attempted, rfl⟩ := makes
  obtain ⟨rounds, available⟩ : ∃ rounds, executor.rounds = rounds + 1 + earlier :=
    ⟨executor.rounds - (earlier + 1), by lia⟩
  rw [retry, Run.bind_of_eq_some ticked, available, came.retryFrom_eq,
    retryFrom_of_attempts attempted, retryAfter_of_decision decides]
  rfl

theorem makesAttempt_of_retry
    (ran : executor.retry operation kind policy attempt opening = some (result, final)) :
    (∃ position answer, position ≤ executor.rounds ∧
      executor.MakesAttempt kind policy attempt opening position answer final ∧
        executor.decision? operation kind answer = some result) ∨
      ∃ error, result = .error error ∧
        (error.isTimeout = true ∨ error.isCancelled = true) := by
  obtain ⟨started, begun, ticked, ran⟩ := Run.bind_eq_some_iff.1 ran
  rcases RetriesTo.begin.ends ran with ⟨earlier, last, answer, before, came, attempted,
    decides⟩ | givesUp
  · exact .inl ⟨earlier + 1, answer, before,
      ⟨started, begun, earlier, last, ticked, came, attempted, rfl⟩, decides⟩
  · exact .inr givesUp

/-! ## What is made of a missing resource -/

theorem FindsMissing.retry_eq (knows : executor.classifier.KnowsMissing)
    (finds : executor.FindsMissing kind policy attempt opening failure answered) :
    executor.retry operation kind policy attempt opening =
      some (.error (.nonRetryable operation failure), answered) := by
  obtain ⟨missing, position, enough, makes⟩ := finds
  refine makes.ends enough ?_
  rw [decision?, knows failure kind missing]

/-- The retries of a call end with the news that the resource does not exist only if an
attempt was answered so. -/
theorem findsMissing_of_retry {error : CallError}
    (ran : executor.retry operation kind policy attempt opening = some (.error error, final))
    (missing : error.isNotFound = true) :
    ∃ failure, error = .nonRetryable operation failure ∧
      executor.FindsMissing kind policy attempt opening failure final := by
  rcases makesAttempt_of_retry ran with
    ⟨position, answer, enough, makes, decides⟩ | ⟨_, same, givesUp⟩
  · cases answer with
    | ok value => cases decides
    | error failure =>
        rw [decision?] at decides
        cases verdict : executor.classifier.classify failure kind <;>
          rw [verdict] at decides <;> cases decides
        · exact ⟨failure, rfl, missing, position, enough, makes⟩
        · cases missing
  · cases same
    cases error <;> simp_all [CallError.isNotFound, CallError.isTimeout, CallError.isCancelled]

section

variable {target : Target} {waiting : PollPolicy} {polls : Nat} {error : CallError}
variable {read : Run World (Except RemoteError ObservedStatus)}

/-- A wait goes on from a missing resource as from the status of an absent one. -/
theorem awaitAfter_of_missing (missing : error.isNotFound = true) :
    executor.awaitAfter operation target waiting read started rounds polls (.error error) =
      executor.awaitAfter operation target waiting read started rounds polls
        (.ok .absent) := by
  simp only [awaitAfter, statusOf, missing, if_true]

/-- A status read that fails otherwise ends a wait without a decision. -/
theorem awaitAfter_of_failure (found : error.isNotFound = false) :
    ∃ ending final,
      executor.awaitAfter operation target waiting read started rounds polls (.error error)
          answered = some (.error ending, final) ∧
        ¬ IsDecision (.error ending) := by
  have ticked : executor.environment.time answered =
    some ((executor.environment.now answered.world).1,
      { answered with world := (executor.environment.now answered.world).2 }) := rfl
  rw [awaitAfter, Run.bind_of_eq_some ticked]
  cases told : statusOf operation (polls + 1)
      ((executor.environment.now answered.world).1 - started) (.error error) with
  | error ending => exact ⟨ending, _, rfl, not_isDecision_of_statusOf told⟩
  | ok status => simp [statusOf, found] at told

end

section

variable (executor : Executor World)

/-- A status read of a wait that began when the clock showed `started` finds that the
resource does not exist. -/
def FindsAbsent (waiting : PollPolicy) (read : Run World (Except RemoteError ObservedStatus))
    (started : Duration) (session : Session World) (failure : RemoteError)
    (answered : Session World) : Prop :=
  executor.environment.cancelled session.world = false ∧
    ∃ now timed, executor.environment.time session = some (now, timed) ∧
      executor.FindsMissing .read
        (waiting.read.clampedTo (waiting.deadline - (now - started))) read timed failure
        answered

/-- What calls and waits make of failures which say that a resource does not exist. -/
structure KnowsMissing : Prop where
  /-- The retries of a call end with the first of them, which their result passes on. -/
  stops : ∀ {α : Type} {operation kind policy} {attempt : Run World (Except RemoteError α)}
    {opening failure answered},
    executor.FindsMissing kind policy attempt opening failure answered →
    executor.retry operation kind policy attempt opening =
      some (.error (.nonRetryable operation failure), answered)
  /-- A result that says so has no other reason. -/
  stopsOnly : ∀ {α : Type} {operation kind policy}
    {attempt : Run World (Except RemoteError α)} {opening error final},
    executor.retry operation kind policy attempt opening = some (.error error, final) →
    error.isNotFound = true →
    ∃ failure, error = .nonRetryable operation failure ∧
      executor.FindsMissing kind policy attempt opening failure final
  /-- A wait goes on from them as from the status of an absent resource. -/
  absent : ∀ {operation target waiting read started rounds polls session failure answered},
    executor.FindsAbsent waiting read started session failure answered →
    executor.awaitFrom operation target waiting read started (rounds + 1) polls session =
      executor.awaitAfter operation target waiting read started rounds polls (.ok .absent)
        answered
  /-- A status read that fails for another reason ends the wait without a decision. -/
  absentOnly : ∀ {operation target waiting read started rounds polls session error answered},
    executor.Polls operation waiting read started session (.error error) answered →
    (∀ failure, ¬ executor.FindsAbsent waiting read started session failure answered) →
    ∃ ending final,
      executor.awaitFrom operation target waiting read started (rounds + 1) polls session =
        some (.error ending, final) ∧ ¬ IsDecision (.error ending)

end

theorem knowsMissing_of_classifier (knows : executor.classifier.KnowsMissing) :
    executor.KnowsMissing where
  stops finds := finds.retry_eq knows
  stopsOnly ran missing := findsMissing_of_retry ran missing
  absent := by
    rintro operation target waiting read started rounds polls session failure answered
      ⟨asked, now, timed, ticked, finds⟩
    have polled : executor.Polls operation waiting read started session
        (.error (.nonRetryable operation failure)) answered :=
      ⟨asked, now, timed, ticked, finds.retry_eq knows⟩
    have missing : (CallError.nonRetryable operation failure).isNotFound = true := finds.1
    rw [awaitFrom_of_polls polled, awaitAfter_of_missing missing]
  absentOnly := by
    intro operation target waiting read started rounds polls session error answered polled
      others
    rw [awaitFrom_of_polls polled]
    apply awaitAfter_of_failure
    rw [Bool.eq_false_iff]
    intro missing
    obtain ⟨asked, now, timed, ticked, retried⟩ := polled
    obtain ⟨failure, -, finds⟩ := findsMissing_of_retry retried missing
    exact others failure ⟨asked, now, timed, ticked, finds⟩

end Executor

namespace Reconciler

variable {World : Type} (reconciler : Reconciler World) (adapter : Adapter)

/-- A call for a purpose is answered by a failure which says that the resource does not
exist. -/
def FindsMissing (purpose : Purpose) (request : Request) (opening : Session World)
    (failure : RemoteError) (answered : Session World) : Prop :=
  reconciler.executor.FindsMissing purpose.kind (reconciler.policy purpose.kind)
    (reconciler.executor.environment.call purpose request) opening failure answered

/-- What passes make of failures which say that a resource does not exist. -/
structure KnowsMissing : Prop where
  /-- A read finds nothing. -/
  nothing : ∀ {id purpose opening failure answered},
    reconciler.FindsMissing purpose (adapter.readRequest id) opening failure answered →
    reconciler.read adapter id purpose opening = some (.ok none, answered)
  /-- A read whose call fails otherwise does not find nothing. -/
  nothingOnly : ∀ {id purpose opening final},
    reconciler.read adapter id purpose opening = some (.ok none, final) →
    (∃ failure,
      reconciler.FindsMissing purpose (adapter.readRequest id) opening failure final) ∨
    ∃ answer, reconciler.call purpose (adapter.readRequest id) opening =
        some (.ok answer, final) ∧ adapter.readState answer = .ok none
  /-- A delete goes on to wait for its confirmation. -/
  confirms : ∀ {id record begun session failure answered},
    checkedId adapter record = .ok (some id) → record.state ≠ .polling .delete →
    reconciler.moved session record .deleting = .ok begun →
    reconciler.FindsMissing .delete (adapter.deleteRequest id) session failure answered →
    reconciler.delete adapter record session =
      reconciler.finishDelete adapter begun id answered
  /-- A delete whose call fails otherwise has failed. -/
  confirmsOnly : ∀ {id record begun session error answered},
    checkedId adapter record = .ok (some id) → record.state ≠ .polling .delete →
    reconciler.moved session record .deleting = .ok begun →
    reconciler.call .delete (adapter.deleteRequest id) session =
      some (.error error, answered) →
    (∀ failure, ¬ reconciler.FindsMissing .delete (adapter.deleteRequest id) session failure
      answered) →
    reconciler.delete adapter record session =
      some (reconciler.failing answered begun .delete (.call error), answered)

variable {reconciler adapter} {record begun : Record} {session answered : Session World}
variable {id : Identifier} {error : CallError}

section

variable (checked : checkedId adapter record = .ok (some id))
variable (unasked : record.state ≠ .polling .delete)
variable (entered : reconciler.moved session record .deleting = .ok begun)
variable (called : reconciler.call .delete (adapter.deleteRequest id) session =
  some (.error error, answered))

include checked unasked entered called

theorem delete_of_missing (missing : error.isNotFound = true) :
    reconciler.delete adapter record session =
      reconciler.finishDelete adapter begun id answered := by
  simp only [delete, checked, if_neg unasked]
  rw [entering_of_moved entered, Run.bind_of_eq_some called]
  simp only [missing, if_true]

theorem delete_of_failure (found : error.isNotFound = false) :
    reconciler.delete adapter record session =
      some (reconciler.failing answered begun .delete (.call error), answered) := by
  simp only [delete, checked, if_neg unasked]
  rw [entering_of_moved entered, Run.bind_of_eq_some called]
  simp only [found, Bool.false_eq_true, if_false]
  rfl

end

theorem read_of_missing {purpose : Purpose}
    (called : reconciler.call purpose (adapter.readRequest id) session =
      some (.error error, answered))
    (missing : error.isNotFound = true) :
    reconciler.read adapter id purpose session = some (.ok none, answered) := by
  rw [read, Run.bind_of_eq_some called]
  simp only [missing, if_true]
  rfl

/-- If the built-in rules are extended by rules that are not for the codes of missing
resources, then repeating a call that found a resource missing is never worthwhile.  Its
retries end with the first such answer, a wait takes it for the status of an absent resource,
a read finds nothing, and a delete goes on to wait for its confirmation; and no other failure
of a call has these effects. -/
theorem knowsMissing (reconciler : Reconciler World) (adapter : Adapter)
    {rules : List (String × Verdict)}
    (table : reconciler.executor.classifier = Classifier.standard.extended rules)
    (spared : Classifier.SparesMissing rules) :
    reconciler.executor.classifier.KnowsMissing ∧ reconciler.executor.KnowsMissing ∧
      reconciler.KnowsMissing adapter := by
  have verdicts : reconciler.executor.classifier.KnowsMissing :=
    table ▸ Classifier.extended_knowsMissing spared
  refine ⟨verdicts, Executor.knowsMissing_of_classifier verdicts, ?_⟩
  constructor
  case nothing =>
    intro id purpose opening failure answered finds
    exact read_of_missing (finds.retry_eq verdicts) finds.1
  case nothingOnly =>
    intro id purpose opening final ran
    generalize found : (.ok none : Except PassError (Option ObservedState)) = result at ran
    cases reconciler.reads_of_read adapter id ran with
    | missing called missing =>
        obtain ⟨failure, -, finds⟩ := Executor.findsMissing_of_retry called missing
        exact .inl ⟨failure, finds⟩
    | gone called parsed => exact .inr ⟨_, called, parsed⟩
    | @tagged _ _ _ tags => cases tags <;> cases found
    | _ => cases found
  case confirms =>
    intro id record begun session failure answered checked unasked entered finds
    exact delete_of_missing checked unasked entered (finds.retry_eq verdicts) finds.1
  case confirmsOnly =>
    intro id record begun session error answered checked unasked entered called others
    apply delete_of_failure checked unasked entered called
    rw [Bool.eq_false_iff]
    intro missing
    obtain ⟨failure, -, finds⟩ := Executor.findsMissing_of_retry called missing
    exact others failure finds

end Reconciler

namespace Simulation.Server

/-- Rules for codes that resemble those of missing resources. -/
def lookalikes : List (String × Verdict) :=
  [("ResourceNot", .retryable), ("ResourceNotFoundYet", .retryable), ("", .fatal)]

/-- A reconciler of servers with more rules. -/
def cautious : Reconciler World where
  executor := ⟨World.environment, .extended .standard lookalikes, World.rounds⟩
  catalog := reconciler.catalog
  settings := reconciler.settings

/-- The server does not exist. -/
def lost : Entry where
  answer := .error (.api "ResourceNotFound.Server" "no such server" none)

/-- The server is gone.  The remote is busy at first. -/
def vanished : Session World :=
  .fresh (world [("Describe", [busy, lost])])

/-- The identifier of the server. -/
def s2 : Identifier := ⟨["z1", "s2"], by decide, by decide⟩

theorem vanished_server_is_missing :
    cautious.executor.classifier = .extended .standard lookalikes ∧
      Classifier.SparesMissing lookalikes ∧
      (cautious.read adapter s2 .refresh vanished).map Prod.fst = some (.ok none) := by
  have spared : Classifier.SparesMissing lookalikes := by
    unfold Classifier.SparesMissing
    decide
  have finds : ∃ failure answered, cautious.FindsMissing .refresh (adapter.readRequest s2)
      vanished failure answered :=
    ⟨_, _, rfl, 2, by decide, _, _, 1, _, rfl,
      .again .begin ⟨rfl, rfl⟩ (by decide +kernel) rfl (by decide +kernel) rfl rfl,
      ⟨rfl, rfl⟩, rfl⟩
  obtain ⟨failure, answered, found⟩ := finds
  obtain ⟨-, -, knows⟩ := cautious.knowsMissing adapter rfl spared
  refine ⟨rfl, spared, ?_⟩
  rw [knows.nothing found]
  rfl

end Simulation.Server

end ControlLoop
