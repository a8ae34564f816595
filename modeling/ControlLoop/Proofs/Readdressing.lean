import ControlLoop.Proofs.Refusal
import ControlLoop.Proofs.Storage

/-!
# Records of which an identifier is left

An identifier is all that is needed to address a resource again, if the record is in a
state from which a pass can start.  A record that is stored without a state is read as
absent, and an absent record is neither refreshed nor deleted.

In any other state an update of a record that knows nothing of its resource begins with a
refresh, because no field can be frozen yet, and a delete begins with its request.

Main statement: `Record.remnant_addresses_iff`.
-/

namespace ControlLoop

/-! ## Comparing what is not known -/

/-- Declared fields can all be changed while nothing is known of the resource, because there
is no value to compare a frozen one with. -/
theorem diffAgainst_of_isInitial {desired : AttributeMap} {baseline : Baseline}
    {schema : ResourceSchema} (initial : baseline.isInitial = true)
    (declared : ∀ name ∈ desired.keys, schema.field? name ≠ none) :
    ∃ diff, diffAgainst desired baseline schema = .ok diff ∧ diff.isApplicable = true := by
  refine ⟨_, diffAgainst_eq_ok_iff.2 ⟨declared, FieldDiff.due_lists⟩, ?_⟩
  rw [FieldDiff.isApplicable, List.isEmpty_iff, List.eq_nil_iff_forall_not_mem]
  intro violation member
  obtain ⟨-, field, -, -, current, -⟩ := FieldDiff.mem_due_violations_iff.1 member
  rw [Baseline.comparand?_of_isInitial initial] at current
  cases current

/-! ## The first attempt -/

/-- The caller has not cancelled by the time that the clock is read for the first time. -/
def Environment.Unfired {World : Type} (environment : Environment World) (world : World) :
    Prop :=
  environment.cancelled (environment.now world).2 = false

namespace Reconciler

variable {World : Type} {reconciler : Reconciler World} {adapter : Adapter}
variable {session final : Session World} {record : Record}

/-- A call is attempted at least once, unless the caller has cancelled before. -/
theorem attempts_of_call {purpose : Purpose} {request : Request}
    {result : Except CallError Json}
    (unfired : reconciler.executor.environment.Unfired session.world)
    (ran : reconciler.call purpose request session = some (result, final)) :
    ∃ answer, Event.called purpose request answer ∈ final.journal := by
  obtain ⟨started, begun, ticked, ran⟩ := Run.bind_eq_some_iff.1 ran
  cases ticked
  rcases reconciler.executor.retryFrom_begins
    (reconciler.executor.environment.call_notes purpose request) (fun _ _ => trivial) ran with
    ⟨cancelled, -, -⟩ | ⟨-, answer, answered, attempted, later⟩
  · exact absurd (unfired.symm.trans cancelled) nofun
  · obtain ⟨events, grown, -⟩ := later
    have journal :=
      reconciler.executor.environment.call_notesAnswer purpose request _ _ _ attempted
    refine ⟨answer, ?_⟩
    rw [grown, journal]
    exact List.mem_append_right events List.mem_cons_self

theorem attempts_of_read {id : Identifier} {purpose : Purpose}
    {result : Except PassError (Option ObservedState)}
    (unfired : reconciler.executor.environment.Unfired session.world)
    (ran : reconciler.read adapter id purpose session = some (result, final)) :
    ∃ answer, Event.called purpose (adapter.readRequest id) answer ∈ final.journal := by
  cases reconciler.reads_of_read adapter id ran with
  | failed called _ => exact attempts_of_call unfired called
  | missing called _ => exact attempts_of_call unfired called
  | unclear called _ => exact attempts_of_call unfired called
  | gone called _ => exact attempts_of_call unfired called
  | untagged called _ _ => exact attempts_of_call unfired called
  | tagged called _ _ described =>
      obtain ⟨answer, made⟩ := attempts_of_call unfired called
      obtain ⟨reads, grown, -⟩ :=
        reconciler.executor.describeTags_notes _ _ _ _ _ described
      exact ⟨answer, grown ▸ List.mem_append_right reads made⟩

/-- A record that a reconcile accepts, and that addresses a resource, is resumed or
updated. -/
theorem next_of_accepts {next : Standing World} {desired : DesiredState}
    {schema : ResourceSchema} {id : Identifier}
    (accepts : reconciler.Accepts adapter record schema (some id))
    (step : reconciler.Step adapter ⟨.reconcile desired, record, session⟩ next) :
    next = ⟨record.state.resumes?.elim (.update schema desired id) (.finish id), record,
      session⟩ := by
  cases step with
  | declined declines =>
      cases declines with
      | refused entry _ => cases entry
      | tainted tainted => cases tainted.symm.trans accepts.untainted
      | unknownType unknown => cases unknown.symm.trans accepts.known
      | unreadableId _ unreadable => cases unreadable.symm.trans accepts.readable
      | deletePending pending => cases pending.symm.trans accepts.undeleted
      | undeclaredAtCreate others _ => cases others.readable.symm.trans accepts.readable
      | undeclared compares _ _ => cases compares
      | frozen compares _ _ _ => cases compares
  | failed fails =>
      cases fails with
      | await waits _ _ => cases waits
  | begins others _ => cases others.readable.symm.trans accepts.readable
  | resumes others resumption =>
      cases others.readable.symm.trans accepts.readable
      rw [resumption]
      rfl
  | updates others resumption =>
      cases others.readable.symm.trans accepts.readable
      cases others.known.symm.trans accepts.known
      rw [resumption]
      rfl

/-- A pass that has come to a stage where it moves to a state for its first call either is
refused, or attempts the call. -/
structure Attempts (state : RecordState) (purpose : Purpose) (request : Request)
    (record : Record) (next : Standing World) : Prop where
  refused : record.state.canMoveTo state = false →
    ∃ refusal, next.stage = .ended (.invalid (.invalidState refusal))
  made : record.state.canMoveTo state = true →
    ∃ answer, Event.called purpose request answer ∈ next.session.journal

section

variable {state : RecordState} {purpose : Purpose} {request : Request} {next : Standing World}

theorem Attempts.of_refused {refusal : InvalidState}
    (ended : next.stage = .ended (.invalid (.invalidState refusal)))
    (refused : reconciler.moved session record state = .error refusal) :
    Attempts state purpose request record next where
  refused _ := ⟨refusal, ended⟩
  made allowed := absurd refused (moved_ne_error allowed)

theorem Attempts.of_moved {begun : Record}
    (entered : reconciler.moved session record state = .ok begun)
    (made : ∃ answer, Event.called purpose request answer ∈ next.session.journal) :
    Attempts state purpose request record next where
  refused refuses := absurd (moved_eq_ok_iff.1 entered).1 (by simp [refuses])
  made _ := made

end

/-- An update that finds no frozen field refreshes the resource, if it may begin. -/
theorem attempts_of_update {next : Standing World} {desired : DesiredState}
    {schema : ResourceSchema} {id : Identifier}
    (applicable : ∀ compared, record.Untouched compared →
      ∃ diff, fieldDiff compared desired schema = .ok diff ∧ diff.isApplicable = true)
    (unfired : reconciler.executor.environment.Unfired session.world)
    (step : reconciler.Step adapter ⟨.update schema desired id, record, session⟩ next) :
    Attempts .diffing .refresh (adapter.readRequest id) record next := by
  cases step with
  | declined declines =>
      cases declines with
      | refused entry refused =>
          cases entry
          exact .of_refused rfl refused
      | unreadableId start _ => cases start
      | undeclared compares entered undeclared =>
          cases compares
          obtain ⟨diff, compared, -⟩ := applicable _ (untouched_of_moved entered)
          cases undeclared.symm.trans compared
      | frozen compares entered differs frozen =>
          cases compares
          obtain ⟨diff, compared, unfrozen⟩ := applicable _ (untouched_of_moved entered)
          cases differs.symm.trans compared
          cases frozen.symm.trans unfrozen
  | failed fails =>
      cases fails with
      | await waits _ _ => cases waits
      | refresh entered _ _ _ read => exact .of_moved entered (attempts_of_read unfired read)
  | refreshed entered _ _ _ read => exact .of_moved entered (attempts_of_read unfired read)
  | gone entered _ _ _ read _ => exact .of_moved entered (attempts_of_read unfired read)

/-- A delete of a known resource declines for the state of the record only. -/
theorem refused_of_declines_delete {id : Identifier} {outcome : Outcome} {left : Record}
    (readable : checkedId adapter record = .ok (some id))
    (declines : reconciler.Declines adapter session record .delete outcome left) :
    record.state ≠ .polling .delete ∧ ∃ refusal,
      outcome = .invalid (.invalidState refusal) ∧
        reconciler.moved session record .deleting = .error refusal := by
  cases declines with
  | refused entry _ => cases entry
  | refusedDelete _ notPolling refused => exact ⟨notPolling, _, rfl, refused⟩
  | unreadableId _ unreadable => cases unreadable.symm.trans readable
  | undeclared compares _ _ => cases compares
  | frozen compares _ _ _ => cases compares

/-- A delete that has been waiting for its end waits again. -/
theorem next_of_deletePolling {next : Standing World} {id : Identifier}
    (readable : checkedId adapter record = .ok (some id))
    (isPolling : record.state = .polling .delete)
    (step : reconciler.Step adapter ⟨.delete, record, session⟩ next) :
    next = ⟨.finishDelete id, record, session⟩ := by
  cases step with
  | declined declines =>
      exact absurd isPolling (refused_of_declines_delete readable declines).1
  | failed fails =>
      cases fails with
      | await waits _ _ => cases waits
      | delete _ notPolling _ _ _ => exact absurd isPolling notPolling
  | unknown unaddressed => cases unaddressed.symm.trans readable
  | resumesDelete checked _ =>
      cases checked.symm.trans readable
      rfl
  | deleting _ notPolling _ _ _ => exact absurd isPolling notPolling

/-- A delete of a known resource that is not yet on its way sends its request, if it may
begin. -/
theorem attempts_of_delete {next : Standing World} {id : Identifier}
    (readable : checkedId adapter record = .ok (some id))
    (notPolling : record.state ≠ .polling .delete)
    (unfired : reconciler.executor.environment.Unfired session.world)
    (step : reconciler.Step adapter ⟨.delete, record, session⟩ next) :
    Attempts .deleting .delete (adapter.deleteRequest id) record next := by
  cases step with
  | declined declines =>
      obtain ⟨-, refusal, rfl, refused⟩ := refused_of_declines_delete readable declines
      exact .of_refused rfl refused
  | failed fails =>
      cases fails with
      | await waits _ _ => cases waits
      | delete checked _ entered called _ =>
          cases checked.symm.trans readable
          exact .of_moved entered (attempts_of_call unfired called)
  | unknown unaddressed => cases unaddressed.symm.trans readable
  | resumesDelete _ isPolling => exact absurd isPolling notPolling
  | deleting checked _ entered called _ =>
      cases checked.symm.trans readable
      exact .of_moved entered (attempts_of_call unfired called)

end Reconciler

namespace Pass

variable {World : Type} {adapter : Adapter} {pass : Pass World adapter}
variable {standing : Standing World}

/-- The pass attempts a request for a purpose. -/
def Sends (pass : Pass World adapter) (purpose : Purpose) (request : Request) : Prop :=
  ∃ answer, Event.called purpose request answer ∈ pass.journal

/-- The pass refuses the record for the state that it is in. -/
def RefusesState (pass : Pass World adapter) : Prop :=
  ∃ refusal, pass.outcome = .invalid (.invalidState refusal)

theorem RefusesState.journal_eq (refuses : pass.RefusesState) : pass.journal = [] := by
  obtain ⟨refusal, outcome⟩ := refuses
  exact (pass.refuses_quietly.1 (.inl ⟨_, outcome⟩)).1

theorem not_sends_of_refusesState {purpose : Purpose} {request : Request}
    (refuses : pass.RefusesState) : ¬pass.Sends purpose request := by
  rintro ⟨answer, made⟩
  rw [refuses.journal_eq] at made
  cases made

/-- Until it ends, a pass takes another step. -/
theorem exists_step
    (steps : Relation.ReflTransGen (pass.reconciler.Step adapter) standing pass.ending)
    (unended : 0 < standing.stage.rank) :
    ∃ next, pass.reconciler.Step adapter standing next ∧
      Relation.ReflTransGen (pass.reconciler.Step adapter) next pass.ending := by
  rcases steps.cases_head with rfl | step
  · exact absurd unended (Nat.lt_irrefl 0)
  · exact step

/-- Every pass takes a step. -/
theorem exists_first_step (pass : Pass World adapter) :
    ∃ next, pass.reconciler.Step adapter pass.opening next ∧
      Relation.ReflTransGen (pass.reconciler.Step adapter) next pass.ending := by
  apply exists_step pass.steps
  rw [opening]
  cases pass.goal <;> exact Nat.zero_lt_succ _

theorem outcome_of_ended {outcome : Outcome}
    (steps : Relation.ReflTransGen (pass.reconciler.Step adapter) standing pass.ending)
    (ended : standing.stage = .ended outcome) : pass.outcome = outcome := by
  rcases steps.cases_head with rfl | ⟨next, step, -⟩
  · exact Stage.ended.inj ended
  · have lower := step.rank_lt
    rw [ended] at lower
    exact absurd lower (Nat.not_lt_zero _)

theorem sends_of_steps {purpose : Purpose} {request : Request}
    (steps : Relation.ReflTransGen (pass.reconciler.Step adapter) standing pass.ending)
    (made : ∃ answer, Event.called purpose request answer ∈ standing.session.journal) :
    pass.Sends purpose request := by
  obtain ⟨answer, made⟩ := made
  exact ⟨answer, Reconciler.invariant_of_steps (fun _ _ made step => step.mem_journal made)
    steps made⟩

/-- What comes of an attempt for which a pass has to move to a state. -/
theorem sends_iff_of_attempts {state : RecordState} {purpose : Purpose} {request : Request}
    {record : Record}
    (attempts : Reconciler.Attempts state purpose request record standing)
    (steps : Relation.ReflTransGen (pass.reconciler.Step adapter) standing pass.ending) :
    (pass.Sends purpose request ↔ record.state.canMoveTo state = true) ∧
      (pass.RefusesState ↔ record.state.canMoveTo state = false) := by
  cases allowed : record.state.canMoveTo state with
  | true =>
      have sends := sends_of_steps steps (attempts.made allowed)
      simp only [sends, iff_false, true_and, reduceCtorEq]
      exact fun refuses => not_sends_of_refusesState refuses sends
  | false =>
      obtain ⟨refusal, ended⟩ := attempts.refused allowed
      have refuses : pass.RefusesState := ⟨refusal, outcome_of_ended steps ended⟩
      simp only [refuses, not_sends_of_refusesState refuses, reduceCtorEq, and_self]

theorem refusesState_of_deletePending {desired : DesiredState} {id : Option Identifier}
    (goal : pass.goal = .reconcile desired) (untainted : pass.before.tainted = false)
    (known : pass.reconciler.catalog.get? adapter.resourceType ≠ none)
    (readable : Reconciler.checkedId adapter pass.before = .ok id)
    (pending : pass.before.state.isDeletePending = true) : pass.RefusesState := by
  obtain ⟨schema, known⟩ := Option.ne_none_iff_exists'.1 known
  have ran := pass.ran
  simp only [goal, Reconciler.pursue, Reconciler.reconcile, untainted, known, readable,
    pending, Bool.false_eq_true, if_false, if_true] at ran
  exact ⟨_, (congrArg (fun ended => ended.1.2) (Option.some.inj ran)).symm⟩

/-- A pass from which only a wait is left is not refused for its state. -/
theorem not_refusesState_of_commits
    (steps : Relation.ReflTransGen (pass.reconciler.Step adapter) standing pass.ending)
    (commits : standing.stage.Commits standing.record) : ¬pass.RefusesState := by
  have ends : pass.ending.stage.Commits pass.ending.record :=
    Reconciler.invariant_of_steps (fun _ _ => Reconciler.commits_of_step) steps commits
  rintro ⟨refusal, refused⟩
  rw [ending, refused] at ends
  exact ends trivial

section

variable {desired : DesiredState} {schema : ResourceSchema} {id : Identifier}

theorem steps_of_accepts (goal : pass.goal = .reconcile desired)
    (accepts : pass.reconciler.Accepts adapter pass.before schema (some id)) :
    Relation.ReflTransGen (pass.reconciler.Step adapter)
      ⟨pass.before.state.resumes?.elim (.update schema desired id) (.finish id), pass.before,
        .fresh pass.world⟩ pass.ending := by
  obtain ⟨next, step, steps⟩ := pass.exists_first_step
  rw [opening, goal] at step
  rwa [Reconciler.next_of_accepts accepts step] at steps

/-- A reconcile that takes a wait up again neither refreshes the resource nor refuses. -/
theorem not_sends_of_resumes {phase : Phase} (goal : pass.goal = .reconcile desired)
    (accepts : pass.reconciler.Accepts adapter pass.before schema (some id))
    (resumption : pass.before.state.resumes? = some phase) :
    ¬pass.Sends .refresh (adapter.readRequest id) ∧ ¬pass.RefusesState := by
  have steps := steps_of_accepts goal accepts
  rw [resumption] at steps
  constructor
  · rintro ⟨answer, made⟩
    have addressed := Reconciler.localId_ne_none_of_checkedId accepts.readable
    have rests : pass.goal.stage.Rests pass.before := by
      rw [goal]
      exact ⟨addressed, by simp [resumption]⟩
    cases pass.isFollowUp_of_rests rests _ made
  · exact not_refusesState_of_commits steps (RecordState.canMoveTo_of_resumes? resumption)

/-- A reconcile that compares a record refreshes the resource first, unless the state of the
record keeps it from that. -/
theorem sends_iff_of_updates (goal : pass.goal = .reconcile desired)
    (accepts : pass.reconciler.Accepts adapter pass.before schema (some id))
    (resumption : pass.before.state.resumes? = none)
    (applicable : ∀ compared, pass.before.Untouched compared →
      ∃ diff, Reconciler.fieldDiff compared desired schema = .ok diff ∧
        diff.isApplicable = true)
    (unfired : pass.reconciler.executor.environment.Unfired pass.world) :
    (pass.Sends .refresh (adapter.readRequest id) ↔ pass.before.state ≠ .absent) ∧
      (pass.RefusesState ↔ pass.before.state = .absent) := by
  have steps := steps_of_accepts goal accepts
  rw [resumption] at steps
  obtain ⟨next, step, steps⟩ := exists_step steps (Nat.zero_lt_succ _)
  have attempts := Reconciler.attempts_of_update applicable unfired step
  obtain ⟨sends, refuses⟩ := sends_iff_of_attempts attempts steps
  rw [sends, refuses]
  by_cases isAbsent : pass.before.state = .absent
  · simp [isAbsent, RecordState.canMoveTo, RecordState.successors]
  · simp [isAbsent, RecordState.canMoveTo_diffing isAbsent accepts.undeleted resumption]

end

/-- How a reconcile takes a record of which nothing but an identifier and a state is
known. -/
theorem reconcile_addresses {id : Identifier} {state : RecordState}
    {desired : DesiredState} {schema : ResourceSchema}
    (before : pass.before = { localId := some id, state })
    (fits : id.arity = adapter.idArity)
    (unfired : pass.reconciler.executor.environment.Unfired pass.world)
    (goal : pass.goal = .reconcile desired)
    (known : pass.reconciler.catalog.get? adapter.resourceType = some schema)
    (declared : ∀ name ∈ desired.attributes.keys, schema.field? name ≠ none) :
    (pass.Sends .refresh (adapter.readRequest id) ↔
        state ≠ .absent ∧ state.isDeletePending = false ∧ state.resumes? = none) ∧
      (pass.RefusesState ↔ state = .absent ∨ state.isDeletePending = true) := by
  have readable : Reconciler.checkedId adapter pass.before = .ok (some id) :=
    Reconciler.checkedId_eq_ok_some_iff.2 ⟨by rw [before], fits⟩
  have sameState : state = pass.before.state := by rw [before]
  have untainted : pass.before.tainted = false := by rw [before]
  rw [sameState]
  cases pending : pass.before.state.isDeletePending with
  | true =>
      have refuses := refusesState_of_deletePending goal untainted (by simp [known]) readable
        pending
      simp [refuses, not_sends_of_refusesState refuses]
  | false =>
      have accepts : pass.reconciler.Accepts adapter pass.before schema (some id) :=
        ⟨untainted, known, readable, pending⟩
      cases resumption : pass.before.state.resumes? with
      | some phase =>
          have notAbsent : pass.before.state ≠ .absent := by
            intro isAbsent
            rw [isAbsent] at resumption
            cases resumption
          simp [not_sends_of_resumes goal accepts resumption, notAbsent]
      | none =>
          have applicable (compared : Record) (untouched : pass.before.Untouched compared) :
              ∃ diff, Reconciler.fieldDiff compared desired schema = .ok diff ∧
                diff.isApplicable = true := by
            apply diffAgainst_of_isInitial _ declared
            rw [untouched.lastObserved, untouched.desired, before]
            rfl
          simp [sends_iff_of_updates goal accepts resumption applicable unfired]

/-- How a delete takes a record that knows an identifier. -/
theorem delete_addresses {id : Identifier} (known : pass.before.localId = some id)
    (fits : id.arity = adapter.idArity)
    (unfired : pass.reconciler.executor.environment.Unfired pass.world)
    (goal : pass.goal = .delete) :
    (pass.Sends .delete (adapter.deleteRequest id) ↔
        pass.before.state ≠ .absent ∧ pass.before.state ≠ .polling .delete) ∧
      (pass.RefusesState ↔ pass.before.state = .absent) := by
  have readable : Reconciler.checkedId adapter pass.before = .ok (some id) :=
    Reconciler.checkedId_eq_ok_some_iff.2 ⟨known, fits⟩
  obtain ⟨next, step, steps⟩ := pass.exists_first_step
  rw [opening, goal] at step
  by_cases isPolling : pass.before.state = .polling .delete
  · cases Reconciler.next_of_deletePolling readable isPolling step
    have commits : pass.before.state.canMoveTo (.polling .delete) = true := by
      rw [isPolling]
      rfl
    have rests : pass.goal.stage.Rests pass.before := by
      rw [goal]
      exact isPolling
    have unsent : ¬pass.Sends .delete (adapter.deleteRequest id) := by
      rintro ⟨answer, made⟩
      cases pass.isFollowUp_of_rests rests _ made
    simp [unsent, not_refusesState_of_commits steps commits, isPolling]
  · have attempts := Reconciler.attempts_of_delete readable isPolling unfired step
    obtain ⟨sends, refuses⟩ := sends_iff_of_attempts attempts steps
    rw [sends, refuses]
    by_cases isAbsent : pass.before.state = .absent
    · simp [isAbsent, RecordState.canMoveTo]
    · simp [isAbsent, isPolling, RecordState.canMoveTo_deleting isAbsent isPolling]

end Pass

namespace Record

/-- What is stored of a record of which only the identifier, and perhaps the state, is
left. -/
def remnant (id : Identifier) (state : Option RecordState) : Json :=
  .object (("local_id", .string id.encoded) ::
    (state.map fun state => ("state", state.toJson)).toList)

/-- What is not stored is read as it is in a new record. -/
theorem ofJson?_remnant (id : Identifier) (state : Option RecordState) :
    ofJson? (remnant id state) =
      some { localId := some id, state := state.getD .absent } := by
  cases state <;>
    simp [ofJson?, remnant, Json.fields?, Json.optional, Json.defaulted, List.lookup_cons,
      identifier?_encoded, RecordState.ofJson?_toJson]

/-- A stored identifier addresses its resource again if a state is stored with it.  Without
a state the record counts as absent: a reconcile of it does not refresh the resource, a
delete of it does not send its request, and both refuse it for its state.  A reconcile
refreshes the resource from all other states but those that it resumes and those of a
delete, and a delete sends its request unless it is just waiting for one. -/
theorem remnant_addresses_iff {World : Type} {adapter : Adapter} {id : Identifier}
    (fits : id.arity = adapter.idArity) (state : Option RecordState) :
    ∃ record, ofJson? (remnant id state) = some record ∧
      record.state = state.getD .absent ∧
      ∀ pass : Pass World adapter, pass.before = record →
        pass.reconciler.executor.environment.Unfired pass.world →
        (∀ desired schema, pass.goal = .reconcile desired →
          pass.reconciler.catalog.get? adapter.resourceType = some schema →
          (∀ name ∈ desired.attributes.keys, schema.field? name ≠ none) →
          (pass.Sends .refresh (adapter.readRequest id) ↔ record.state ≠ .absent ∧
            record.state.isDeletePending = false ∧ record.state.resumes? = none) ∧
          (pass.RefusesState ↔
            record.state = .absent ∨ record.state.isDeletePending = true)) ∧
        (pass.goal = .delete →
          (pass.Sends .delete (adapter.deleteRequest id) ↔
            record.state ≠ .absent ∧ record.state ≠ .polling .delete) ∧
          (pass.RefusesState ↔ record.state = .absent)) := by
  refine ⟨_, ofJson?_remnant id state, rfl, ?_⟩
  intro pass before unfired
  constructor
  · intro desired schema goal known declared
    exact Pass.reconcile_addresses before fits unfired goal known declared
  · intro goal
    have addresses := Pass.delete_addresses (by rw [before]) fits unfired goal
    rwa [before] at addresses

end Record

namespace Simulation.Disk

/-- The identifier of the disk. -/
def d1 : Identifier := ⟨["d1"], by decide, by decide⟩

/-- The record that is read where the identifier of the disk, and perhaps a state, is
stored. -/
def restored (state : Option RecordState) : Record :=
  { localId := some d1, state := state.getD .absent }

/-- The disk is found as it is wanted. -/
def asWanted : World :=
  world [("Describe", [found 2 "ready"])]

/-- The disk is deleted, and then not found. -/
def onItsWay : World :=
  world [("Delete", [accepted]), ("Describe", [missing])]

/-- The record that was stored with its state is reconciled. -/
def readdresses : Pass World adapter :=
  .ofEnded reconciler adapter (restored (some .steady)) (.reconcile (sized 2)) asWanted
    (by decide +kernel)

/-- The record that was stored with its state is deleted. -/
def removesAgain : Pass World adapter :=
  .ofEnded reconciler adapter (restored (some .steady)) .delete onItsWay (by decide +kernel)

/-- The record that was stored without a state is reconciled. -/
def missesDisk : Pass World adapter :=
  .ofEnded reconciler adapter (restored none) (.reconcile (sized 2)) asWanted
    (by decide +kernel)

/-- The record that was stored without a state is deleted. -/
def leavesDisk : Pass World adapter :=
  .ofEnded reconciler adapter (restored none) .delete onItsWay (by decide +kernel)

theorem restored_disk_addresses_iff :
    d1.arity = adapter.idArity ∧
      readdresses.Sends .refresh (adapter.readRequest d1) ∧
      removesAgain.Sends .delete (adapter.deleteRequest d1) ∧
      missesDisk.RefusesState ∧ leavesDisk.RefusesState := by
  have fits : d1.arity = adapter.idArity := rfl
  have known : reconciler.catalog.get? adapter.resourceType = some schema := by
    decide +kernel
  have declared : ∀ name ∈ (sized 2).attributes.keys, schema.field? name ≠ none := by
    decide +kernel
  have unfired (world : World) (uncancelled : world.cancelled = false) :
      reconciler.executor.environment.Unfired world := uncancelled
  obtain ⟨record, read, -, addresses⟩ :=
    @Record.remnant_addresses_iff World adapter d1 fits (some .steady)
  cases (Record.ofJson?_remnant d1 (some .steady)).symm.trans read
  obtain ⟨record, read, -, misses⟩ := @Record.remnant_addresses_iff World adapter d1 fits none
  cases (Record.ofJson?_remnant d1 none).symm.trans read
  refine ⟨fits, ?_, ?_, ?_, ?_⟩
  · exact ((addresses readdresses rfl (unfired _ rfl)).1 _ _ rfl known declared).1.2
      (by decide)
  · exact ((addresses removesAgain rfl (unfired _ rfl)).2 rfl).1.2 (by decide)
  · exact ((misses missesDisk rfl (unfired _ rfl)).1 _ _ rfl known declared).2.2
      (by decide)
  · exact ((misses leavesDisk rfl (unfired _ rfl)).2 rfl).2.2 rfl

/-- A disk whose identifier alone was stored, and which is neither refreshed nor
deleted. -/
theorem restored_disk_is_refused :
    Record.ofJson? (.object [("local_id", .string "d1")]) = some (restored none) ∧
      d1.arity = adapter.idArity ∧
      missesDisk.before = restored none ∧ missesDisk.journal = [] ∧
      missesDisk.outcome = .invalid (.invalidState ⟨"absent", "move to diffing"⟩) ∧
      leavesDisk.before = restored none ∧ leavesDisk.journal = [] ∧
      leavesDisk.outcome = .invalid (.invalidState ⟨"absent", "move to deleting"⟩) := by
  decide +kernel

end Simulation.Disk

end ControlLoop
