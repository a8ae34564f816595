import ControlLoop.Proofs.Heeding
import ControlLoop.Proofs.Keeping
import ControlLoop.Simulation.Server

/-!
# Passes that the caller cancels

The caller may cancel a pass before it begins, or during any of its calls and sleeps.  The
pass makes no call after that, and no sleep takes place.  If it had nothing more to do, it
ends as it would have; otherwise it ends as cancelled, in the phase that it was in.  A call
in progress is still answered: the identifier of a resource whose create request is
answered then is not lost.

Main statement: `Reconciler.stops_on_cancellation`.
-/

namespace ControlLoop

/-! ## The phase in progress -/

/-- The phase that a stage is part of. -/
def Stage.phase? : Stage → Option Phase
  | .create _ => some .create
  | .update _ _ _ => some .update
  | .sendUpdates _ _ _ => some .update
  | .finish _ phase => some phase
  | .tagAndObserve _ phase => some phase
  | .observe _ phase => some phase
  | .delete => some .delete
  | .finishDelete _ => some .delete
  | _ => none

/-- The pass comes to its end from a stage of a phase. -/
def Pass.EndsIn {World : Type} {adapter : Adapter} (pass : Pass World adapter)
    (phase : Phase) : Prop :=
  ∃ standing, pass.Visits standing ∧
    pass.reconciler.Step adapter standing pass.ending ∧ standing.stage.phase? = some phase

namespace Reconciler

variable {World : Type} {reconciler : Reconciler World} {adapter : Adapter}
variable {session final : Session World} {record begun : Record} {stage : Stage}

/-- A step fails in the phase of its stage. -/
theorem Fails.phase? {phase : Phase} {error : PassError}
    (fails : reconciler.Fails adapter session record stage phase error begun final) :
    stage.phase? = some phase := by
  cases fails with
  | await waits _ _ =>
      cases stage with
      | finish id phase =>
          cases waits
          rfl
      | finishDelete id =>
          cases waits
          rfl
      | _ => cases waits
  | _ => rfl

/-- A step that ends a pass as cancelled is one of the phase that is reported. -/
theorem phase?_of_step {standing next : Standing World} {phase : Phase}
    (step : reconciler.Step adapter standing next)
    (cancelled : next.stage = .ended (.cancelled phase)) :
    standing.stage.phase? = some phase := by
  cases step with
  | declined declines =>
      cases cancelled
      cases declines
  | failed fails =>
      rw [fails.phase?]
      have outcome := Stage.ended.inj cancelled
      rcases reconciler.outcome_of_failing _ _ _ _ with same | same | same
      · rw [same] at outcome
        cases outcome
        rfl
      · rw [same] at outcome
        cases outcome
      · rw [same] at outcome
        cases outcome
  | _ => cases cancelled

end Reconciler

/-- A pass that was cancelled was in the phase that it reports. -/
theorem Pass.endsIn_of_cancelled {World : Type} {adapter : Adapter} {pass : Pass World adapter}
    {phase : Phase} (cancelled : pass.outcome = .cancelled phase) : pass.EndsIn phase := by
  rcases Relation.ReflTransGen.cases_tail pass.steps with same | ⟨standing, reached, step⟩
  · have stage : pass.goal.stage = .ended pass.outcome := congrArg Standing.stage same.symm
    cases goal : pass.goal <;> rw [goal] at stage <;> cases stage
  · have ends : pass.ending.stage = .ended (.cancelled phase) := by
      rw [ending, cancelled]
    exact ⟨standing, ⟨reached, .single step⟩, step, Reconciler.phase?_of_step step ends⟩

/-! ## Identifiers of created resources -/

/-- A record holds the identifier from every answered create request. -/
def Record.HoldsCreated (adapter : Adapter) (desired : DesiredState) (journal : List Event)
    (record : Record) : Prop :=
  ∀ request answer id, Event.called .create request (.ok answer) ∈ journal →
    Reconciler.createdId adapter desired request answer = .ok id → record.localId = some id

/-- No create request was made. -/
def Uncreated (journal : List Event) : Prop :=
  ∀ request answer, .called .create request answer ∉ journal

/-- Nothing has been created where a pass may still create, or give an identifier up. -/
def Stage.IsUnbegun (journal : List Event) : Stage → Prop
  | .reconcile _ => Uncreated journal
  | .update _ _ _ => Uncreated journal
  | .create _ => Uncreated journal
  | .delete => Uncreated journal
  | .finishDelete _ => Uncreated journal
  | _ => True

/-- Where a pass for a desired state stands, its record holds what it has created, and it
creates no more than once. -/
structure Standing.HoldsCreated {World : Type} (standing : Standing World)
    (adapter : Adapter) (desired : DesiredState) : Prop where
  unbegun : standing.stage.IsUnbegun standing.session.journal
  serves : standing.stage.Serves (.reconcile desired) standing.record
  holds : standing.record.HoldsCreated adapter desired standing.session.journal

namespace Reconciler

variable {World : Type} {reconciler : Reconciler World} {adapter : Adapter}
variable {session final : Session World} {record begun : Record} {stage : Stage}
variable {desired : DesiredState}

/-- The answer to a request is what the call of it returns. -/
theorem answered_of_call {purpose : Purpose} {request made : Request} {answer : Json}
    {result : Except CallError Json}
    (ran : reconciler.call purpose request session = some (result, final))
    (answered : .called purpose made (.ok answer) ∈ final.journal)
    (fresh : ∀ request answer, .called purpose request answer ∉ session.journal) :
    made = request ∧ result = .ok answer := by
  obtain ⟨last, undecided, concludes⟩ := reconciler.call_concludes ran
  have unanswered : .called purpose made (.ok answer) ∉ last.journal := by
    obtain ⟨events, grown, areUndecided⟩ := undecided
    rw [grown, List.mem_append]
    rintro (member | member)
    · obtain ⟨duration, completed, same⟩ | ⟨failure, -, same⟩ := areUndecided _ member
      · cases same
      · cases same
    · exact fresh _ _ member
  rcases concludes with ⟨given, decides, journal⟩ | ⟨journal, -⟩
  · rw [journal, List.mem_cons] at answered
    rcases answered with same | member
    · cases same
      exact ⟨rfl, (Option.some.inj decides).symm⟩
    · exact absurd member unanswered
  · rw [journal] at answered
    exact absurd answered unanswered

/-- A record goes on to hold what was created, through stages that create nothing. -/
theorem holdsCreated_of_adds {next : Record}
    (holds : record.HoldsCreated adapter desired session.journal)
    (adds : Session.Adds stage.MayNote session final)
    (elsewhere : ∀ desired, stage ≠ .create desired) (kept : next.localId = record.localId) :
    next.HoldsCreated adapter desired final.journal := by
  intro request answer id created fits
  obtain ⟨events, grown, may⟩ := adds
  rw [grown, List.mem_append] at created
  rcases created with new | old
  · obtain ⟨wanted, isCreate⟩ := Stage.create_of_mayNote (may _ new)
    exact absurd isCreate (elsewhere wanted)
  · exact kept.trans (holds request answer id old fits)

theorem uncreated_of_adds (uncreated : Uncreated session.journal)
    (adds : Session.Adds stage.MayNote session final)
    (elsewhere : ∀ desired, stage ≠ .create desired) : Uncreated final.journal := by
  intro request answer created
  obtain ⟨events, grown, may⟩ := adds
  rw [grown, List.mem_append] at created
  rcases created with new | old
  · obtain ⟨wanted, isCreate⟩ := Stage.create_of_mayNote (may _ new)
    exact elsewhere wanted isCreate
  · exact uncreated request answer old

theorem holdsCreated_of_fails {phase : Phase} {error : PassError} {next : Record}
    (unbegun : stage.IsUnbegun session.journal)
    (serves : stage.Serves (.reconcile desired) record)
    (holds : record.HoldsCreated adapter desired session.journal)
    (fails : reconciler.Fails adapter session record stage phase error begun final)
    (kept : next.localId = record.localId) :
    next.HoldsCreated adapter desired final.journal := by
  have quietly (elsewhere : ∀ desired, stage ≠ .create desired) :
      next.HoldsCreated adapter desired final.journal :=
    holdsCreated_of_adds holds fails.adds elsewhere kept
  cases fails with
  | create _ called =>
      intro request answer id created fits
      cases (answered_of_call called created unbegun).2
  | createAnswer _ called refused =>
      intro request answer id created fits
      obtain ⟨rfl, same⟩ := answered_of_call called created unbegun
      cases serves.1
      cases same
      cases refused.symm.trans fits
  | await waits _ _ =>
      apply quietly
      rintro desired rfl
      cases waits
  | _ => exact quietly nofun

/-- Every step stores what it creates, and keeps what was created. -/
theorem holdsCreated_of_step {standing next : Standing World}
    (known : standing.HoldsCreated adapter desired)
    (step : reconciler.Step adapter standing next) : next.HoldsCreated adapter desired := by
  obtain ⟨unbegun, serves, holds⟩ := known
  have quietly (elsewhere : ∀ desired, standing.stage ≠ .create desired)
      (kept : next.record.localId = standing.record.localId) :
      next.record.HoldsCreated adapter desired next.session.journal :=
    holdsCreated_of_adds holds step.adds elsewhere kept
  have withoutCreate (uncreated : Uncreated standing.session.journal)
      (elsewhere : ∀ desired, standing.stage ≠ .create desired) :
      Uncreated next.session.journal :=
    uncreated_of_adds uncreated step.adds elsewhere
  have goesOn := serves_of_step serves step
  cases step with
  | declined declines =>
      refine ⟨trivial, trivial, fun request answer id created fits => ?_⟩
      exact declines.untouched.localId.trans (holds request answer id created fits)
  | @failed _ record begun session final phase error fails =>
      refine ⟨trivial, trivial, holdsCreated_of_fails unbegun serves holds fails ?_⟩
      exact (reconciler.failing_unchanged final begun phase error).1.trans
        fails.untouched.localId
  | created _ called made =>
      refine ⟨trivial, trivial, fun request answer id created fits => ?_⟩
      obtain ⟨rfl, same⟩ := answered_of_call called created unbegun
      cases serves.1
      cases same
      cases made.symm.trans fits
      rfl
  | gone _ _ _ _ read _ =>
      have uncreated := withoutCreate unbegun nofun
      exact ⟨uncreated, goesOn, fun _ _ _ created => absurd created (uncreated _ _)⟩
  | begins _ _ => exact ⟨unbegun, goesOn, holds⟩
  | resumes _ _ => exact ⟨trivial, trivial, holds⟩
  | updates _ _ => exact ⟨unbegun, goesOn, holds⟩
  | resumesDelete _ _ => exact ⟨unbegun, trivial, holds⟩
  | tagged _ => exact ⟨trivial, trivial, quietly nofun rfl⟩
  | reached entered _ => exact ⟨trivial, trivial, quietly nofun (moved_unchanged entered).1⟩
  | refreshed compares _ _ observing _ =>
      refine ⟨trivial, trivial, quietly nofun ?_⟩
      exact (moved_unchanged observing).1.trans (moved_unchanged compares).1
  | differs entered _ _ _ =>
      exact ⟨trivial, trivial, quietly nofun (moved_unchanged entered).1⟩
  | sentNone entered _ => exact ⟨trivial, trivial, quietly nofun (moved_unchanged entered).1⟩
  | sent _ entered _ => exact ⟨trivial, trivial, quietly nofun (moved_unchanged entered).1⟩
  | deleting _ _ entered _ _ =>
      have uncreated := withoutCreate unbegun nofun
      exact ⟨uncreated, trivial, quietly nofun (moved_unchanged entered).1⟩
  | observed entered _ settles =>
      refine ⟨trivial, trivial, quietly nofun ?_⟩
      exact (moved_unchanged settles).1.trans (moved_unchanged entered).1
  | unchanged entered _ _ _ settles =>
      refine ⟨trivial, trivial, quietly nofun ?_⟩
      exact (moved_unchanged settles).1.trans (moved_unchanged entered).1
  | unknown _ => exact ⟨trivial, trivial, fun _ _ _ created => absurd created (unbegun _ _)⟩
  | deleted _ _ _ =>
      have uncreated := withoutCreate unbegun nofun
      exact ⟨trivial, trivial, fun _ _ _ created => absurd created (uncreated _ _)⟩

end Reconciler

/-- A reconcile leaves a record with the identifier that its create request was answered
with, however the pass goes on from there. -/
theorem Pass.holdsCreated {World : Type} {adapter : Adapter} (pass : Pass World adapter)
    {desired : DesiredState} (goal : pass.goal = .reconcile desired) :
    pass.after.HoldsCreated adapter desired pass.journal := by
  have begins : pass.opening.HoldsCreated adapter desired := by
    rw [opening, goal]
    exact ⟨fun _ _ => List.not_mem_nil, rfl,
      fun _ _ _ created => absurd created List.not_mem_nil⟩
  have ends : pass.ending.HoldsCreated adapter desired :=
    Reconciler.invariant_of_runFrom (fun _ _ => Reconciler.holdsCreated_of_step) pass.ranFrom
      begins
  exact ends.holds

/-! ## Clocks -/

/-- Neither simulated clock moves in a sleep that is asked for after the cancellation. -/
theorem Simulation.World.sleep_of_cancelled (duration : Duration) (world : World)
    (cancelled : world.cancelled = true) :
    (world.sleep duration).1 = false ∧ (world.sleep duration).2.clock = world.clock := by
  rw [World.sleep]
  dsimp only
  split
  · rw [sleepManually]
    split <;> simp [cancel]
  · simp [sleepOnTimer, cancelled]

/-! ## Cancelled passes -/

namespace Pass

variable {World : Type} {adapter : Adapter}

/-- The same pass for a caller who never cancels. -/
structure IsUncut (pass uncut : Pass (Interruptible World) adapter) : Prop where
  reconciler : uncut.reconciler = pass.reconciler
  goal : uncut.goal = pass.goal
  before : uncut.before = pass.before
  world : uncut.world = ⟨pass.world.world, none⟩

/-- How a pass takes a cancellation during its call or sleep of some number. -/
structure StopsAt (pass : Pass (Interruptible World) adapter) (moment : Nat) : Prop where
  /-- After the cancellation no call begins, and no sleep takes place. -/
  silent : ∃ later earlier, pass.journal = later ++ earlier ∧ acts earlier ≤ moment ∧
    ∀ event ∈ later, event.isCutShort = true
  /-- The pass had nothing more to do, or it is cancelled in the phase that it is in. -/
  ends :
    (∃ uncut, pass.IsUncut uncut ∧ acts uncut.journal ≤ moment ∧
      pass.after = uncut.after ∧ pass.outcome = uncut.outcome ∧
      pass.journal = uncut.journal) ∨
    (∀ uncut, pass.IsUncut uncut → moment < acts uncut.journal) ∧
      ∃ phase, pass.outcome = .cancelled phase ∧ pass.EndsIn phase
  /-- What was created is not lost, even if the cancellation came in the meantime. -/
  keeps : ∀ desired, pass.goal = .reconcile desired →
    pass.after.HoldsCreated adapter desired pass.journal

end Pass

/-- Every pass stops on a cancellation, at whichever of its calls and sleeps it comes, as
long as the loops have rounds for as many of them.  No simulated clock moves in a sleep that
is asked for after it. -/
theorem Reconciler.stops_on_cancellation {World : Type} (reconciler : Reconciler World)
    (cut : Duration → World → World) (adapter : Adapter) (record : Record) (goal : Goal)
    (world : World) (moment : Nat) (enough : moment < reconciler.executor.rounds) :
    (∃ pass : Pass (Interruptible World) adapter,
      pass.reconciler = reconciler.interruptible cut ∧ pass.before = record ∧
      pass.goal = goal ∧ pass.world = ⟨world, some moment⟩ ∧ pass.StopsAt moment) ∧
    ∀ (duration : Duration) (simulated : Simulation.World), simulated.cancelled = true →
      (simulated.sleep duration).1 = false ∧
        (simulated.sleep duration).2.clock = simulated.clock := by
  refine ⟨?_, Simulation.World.sleep_of_cancelled⟩
  have heeds : ((reconciler.interruptible cut).pursue adapter record goal).Heeds Stopped moment
      world [] :=
    (pursue_heeds record goal).heeds enough world []
  cases heeds with
  | ends answer left events few uncut cut =>
      let pass : Pass (Interruptible World) adapter := ⟨_, goal, _, record, _, _, _, cut⟩
      let same : Pass (Interruptible World) adapter := ⟨_, goal, _, record, _, _, _, uncut⟩
      rw [← List.append_nil events] at few
      refine ⟨pass, rfl, rfl, rfl, rfl, ⟨[], events ++ [], rfl, few, nofun⟩, ?_,
        fun _ => pass.holdsCreated⟩
      exact .inl ⟨same, ⟨rfl, rfl, rfl, rfl⟩, few, rfl, rfl, rfl⟩
  | stops answer left later earlier stopped many refused cut more =>
      let pass : Pass (Interruptible World) adapter := ⟨_, goal, _, record, _, _, _, cut⟩
      obtain ⟨phase, cancelled⟩ := stopped
      refine ⟨pass, rfl, rfl, rfl, rfl,
        ⟨later, earlier ++ [], List.append_assoc later earlier [], ?_, refused⟩, ?_,
        fun _ => pass.holdsCreated⟩
      · rw [List.append_nil]
        exact Nat.le_of_eq many
      · refine .inr ⟨?_, phase, cancelled, Pass.endsIn_of_cancelled cancelled⟩
        intro uncut isUncut
        have ran := uncut.ran
        rw [isUncut.reconciler, isUncut.before, isUncut.goal, isUncut.world] at ran
        exact more _ uncut.final ran

namespace Simulation.Server

/-- A sleep on a manual clock that is cancelled meanwhile comes to its end. -/
def sleepOn (duration : Duration) (world : World) : World :=
  { world with clock := world.clock.sleep duration }

/-- The remote creates a server, which then is changing for a while. -/
def creating : World :=
  world [("Create", [created]), ("Describe", [found 4 "changing", found 4 "ready"])]

/-- Cancelled while the server was being created, the pass knows the server it left. -/
theorem interrupted_server_stops_on_cancellation :
    ((((reconciler.interruptible sleepOn).pursue adapter {}
      (.reconcile (wanted 4 "secret" "blue")) (.fresh ⟨creating, some 1⟩)).map fun ended =>
        (ended.1.2.name, ended.1.1.localId.map Identifier.parts, acts ended.2.journal)) =
      some ("cancelled", some ["z1", "s1"], 1)) ∧
    (∃ pass : Pass (Interruptible World) adapter,
      pass.reconciler = reconciler.interruptible sleepOn ∧ pass.before = {} ∧
      pass.goal = .reconcile (wanted 4 "secret" "blue") ∧ pass.world = ⟨creating, some 1⟩ ∧
      pass.StopsAt 1) ∧
    ∀ (duration : Duration) (simulated : World), simulated.cancelled = true →
      (simulated.sleep duration).1 = false ∧
        (simulated.sleep duration).2.clock = simulated.clock :=
  ⟨by decide +kernel, reconciler.stops_on_cancellation sleepOn adapter {} _ creating 1
    (by decide)⟩

end Simulation.Server

end ControlLoop
