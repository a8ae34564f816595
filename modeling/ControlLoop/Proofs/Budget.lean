import ControlLoop.Proofs.Termination

/-!
# The time budget of a pass

No step of a pass sleeps longer than its stage may (`Stage.cost`), and what the stages may
sleep adds up along the longest way through the pass (`Stage.spent`): the resource is
refreshed and found to be gone, is created again, waited for and tagged, or is updated by
some requests, and is read back at the end.

Main statement: `Reconciler.ends_within_budget`.
-/

namespace ControlLoop

/-! ## What the stages spend -/

namespace Stage

/-- The most that the sleeps at a stage add up to. -/
def cost (settings : Settings) (adapter : Adapter) : Stage → Duration
  | .create _ => settings.writePolicy.deadline
  | .update _ _ _ => settings.readPolicy.deadline + settings.readPolicy.deadline
  | .sendUpdates _ id updates =>
      (adapter.updateRequests id updates).length * settings.writePolicy.deadline
  | .finish _ _ => settings.pollPolicy.deadline
  | .tagAndObserve _ _ => settings.writePolicy.deadline + settings.writePolicy.deadline
  | .observe _ _ => settings.readPolicy.deadline + settings.readPolicy.deadline
  | .delete => settings.writePolicy.deadline
  | .finishDelete _ => settings.pollPolicy.deadline
  | _ => 0

/-- The most that was slept before a stage, on the longest way to it: the resource was
refreshed and is gone, and is created again, or so many requests were sent to update it. -/
def spent (settings : Settings) (requests : Nat) : Stage → Duration
  | .reconcile _ => 0
  | .update _ _ _ => 0
  | .delete => 0
  | .create _ => 2 * settings.readPolicy.deadline
  | .compareAndSend _ _ _ => 2 * settings.readPolicy.deadline
  | .sendUpdates _ _ _ => 2 * settings.readPolicy.deadline
  | .finish _ _ =>
      2 * settings.readPolicy.deadline + (requests + 1) * settings.writePolicy.deadline
  | .tagAndObserve _ _ =>
      2 * settings.readPolicy.deadline + (requests + 1) * settings.writePolicy.deadline +
        settings.pollPolicy.deadline
  | .observe _ _ =>
      2 * settings.readPolicy.deadline + (requests + 3) * settings.writePolicy.deadline +
        settings.pollPolicy.deadline
  | .finishDelete _ => settings.writePolicy.deadline
  | .ended _ =>
      4 * settings.readPolicy.deadline + (requests + 3) * settings.writePolicy.deadline +
        settings.pollPolicy.deadline

end Stage

/-- A stage that sends requests sends so many. -/
structure Stage.Sends (adapter : Adapter) (count : Nat) (stage : Stage) : Prop where
  count_eq : ∀ {desired id updates}, stage = .sendUpdates desired id updates →
    (adapter.updateRequests id updates).length = count

/-- Whatever the stage of a pass, its budget covers the end. -/
theorem Stage.Sends.spent_le {adapter : Adapter} {count : Nat} {stage : Stage}
    (sends : stage.Sends adapter count) (settings : Settings) (outcome : Outcome) :
    stage.spent settings count + stage.cost settings adapter ≤
      (Stage.ended outcome).spent settings count := by
  cases stage with
  | sendUpdates desired id updates =>
      simp only [spent, cost, sends.count_eq rfl, Nat.add_mul]
      lia
  | _ =>
      simp only [spent, cost, Nat.add_mul]
      lia

/-- At a standing an update sends requests. -/
def Standing.Builds {World : Type} (standing : Standing World) (adapter : Adapter)
    (requests : List Request) : Prop :=
  ∃ desired id updates, standing.stage = .sendUpdates desired id updates ∧
    requests = adapter.updateRequests id updates

/-- A pass has come from one standing to another, and slept no longer than it may, for the
number of requests of an update that it has come by, or for none. -/
def Reconciler.WithinBudget {World : Type} (reconciler : Reconciler World)
    (adapter : Adapter) (opening standing : Standing World) : Prop :=
  Relation.ReflTransGen (reconciler.Step adapter) opening standing ∧
    ∃ count : Nat,
      (count = 0 ∨ ∃ sender requests,
        Relation.ReflTransGen (reconciler.Step adapter) opening sender ∧
          Relation.ReflTransGen (reconciler.Step adapter) sender standing ∧
          sender.Builds adapter requests ∧ requests.length = count) ∧
      slept standing.session.journal ≤ standing.stage.spent reconciler.settings count

namespace Reconciler

variable {World : Type} {reconciler : Reconciler World} {adapter : Adapter}
variable {reading : World → Duration} {session final : Session World}
variable {record begun : Record} {stage : Stage}

/-- A failed step sleeps no longer than its stage may. -/
theorem Fails.slept_le {phase : Phase} {error : PassError} (timed : reconciler.IsTimed reading)
    (fails : reconciler.Fails adapter session record stage phase error begun final) :
    slept final.journal ≤ slept session.journal + stage.cost reconciler.settings adapter := by
  cases fails with
  | create _ called => exact (timed.call_endsWithin _ _).slept_le called
  | createAnswer _ called _ => exact (timed.call_endsWithin _ _).slept_le called
  | await waits _ awaited =>
      have spent := (timed.await_endsWithin _ _).slept_le awaited
      cases stage with
      | finish id phase => exact spent
      | finishDelete id => exact spent
      | _ => cases waits
  | applyTags applied => exact (timed.applyTags_endsWithin _ _).slept_le applied
  | readBack _ read => exact (timed.read_endsWithin _ _ rfl).slept_le read
  | vanished _ read => exact (timed.read_endsWithin _ _ rfl).slept_le read
  | refresh _ _ _ _ read => exact (timed.read_endsWithin _ _ rfl).slept_le read
  | send _ sent => exact (timed.callAll_endsWithin _ _).slept_le sent
  | delete _ _ _ called _ => exact (timed.call_endsWithin _ _).slept_le called

/-- No step sleeps longer than its stage may. -/
theorem Step.slept_le (timed : reconciler.IsTimed reading) {standing next : Standing World}
    (step : reconciler.Step adapter standing next) :
    slept next.session.journal ≤
      slept standing.session.journal + standing.stage.cost reconciler.settings adapter := by
  cases step with
  | failed fails => exact fails.slept_le timed
  | created _ called _ => exact (timed.call_endsWithin _ _).slept_le called
  | reached _ awaited => exact (timed.await_endsWithin _ _).slept_le awaited
  | tagged applied => exact (timed.applyTags_endsWithin _ _).slept_le applied
  | observed _ read _ => exact (timed.read_endsWithin _ _ rfl).slept_le read
  | refreshed _ _ _ _ read => exact (timed.read_endsWithin _ _ rfl).slept_le read
  | gone _ _ _ _ read _ => exact (timed.read_endsWithin _ _ rfl).slept_le read
  | sentNone _ sent => exact (timed.callAll_endsWithin _ _).slept_le sent
  | sent _ _ sent => exact (timed.callAll_endsWithin _ _).slept_le sent
  | deleting _ _ _ called _ => exact (timed.call_endsWithin _ _).slept_le called
  | deleted _ awaited _ => exact (timed.await_endsWithin _ _).slept_le awaited
  | _ => exact Nat.le_add_right _ _

/-- What may have been slept before a stage, together with what the stage may sleep, may
have been slept before the next one, where a stage that sends requests sends so many. -/
theorem spent_of_step (settings : Settings) {standing next : Standing World} {count : Nat}
    (sends : standing.stage.Sends adapter count)
    (step : reconciler.Step adapter standing next) :
    standing.stage.spent settings count + standing.stage.cost settings adapter ≤
      next.stage.spent settings count := by
  cases step with
  | declined _ => exact sends.spent_le settings _
  | failed _ => exact sends.spent_le settings _
  | sentNone _ _ =>
      simp only [Stage.spent, Stage.cost, sends.count_eq rfl, Nat.add_mul]
      lia
  | sent _ _ _ =>
      simp only [Stage.spent, Stage.cost, sends.count_eq rfl, Nat.add_mul]
      lia
  | _ =>
      simp only [Stage.spent, Stage.cost, Nat.add_mul]
      lia

/-- Every step keeps what was slept within what may have been slept, for the number of
requests of the update that the pass has come by, if it has come by one. -/
theorem withinBudget_of_step (timed : reconciler.IsTimed reading)
    {opening standing next : Standing World}
    (within : reconciler.WithinBudget adapter opening standing)
    (step : reconciler.Step adapter standing next) :
    reconciler.WithinBudget adapter opening next := by
  obtain ⟨reached, count, sent, spent⟩ := within
  have sleeps := step.slept_le timed
  have reaches : Relation.ReflTransGen (reconciler.Step adapter) opening next :=
    reached.tail step
  by_cases sending : ∃ desired id updates, standing.stage = .sendUpdates desired id updates
  · -- what was slept so far does not depend on the number of requests
    obtain ⟨desired, id, updates, stage⟩ := sending
    have sends : standing.stage.Sends adapter (adapter.updateRequests id updates).length :=
      ⟨fun same => by
        rw [stage] at same
        cases same
        rfl⟩
    have goesOn := spent_of_step reconciler.settings sends step
    rw [stage] at spent goesOn sleeps
    refine ⟨reaches, (adapter.updateRequests id updates).length, .inr ?_, ?_⟩
    · exact ⟨standing, _, reached, .single step, ⟨desired, id, updates, stage, rfl⟩, rfl⟩
    · exact Nat.le_trans sleeps (Nat.le_trans (Nat.add_le_add_right spent _) goesOn)
  · have sends : standing.stage.Sends adapter count :=
      ⟨fun same => absurd ⟨_, _, _, same⟩ sending⟩
    have goesOn := spent_of_step reconciler.settings sends step
    refine ⟨reaches, count, ?_, by lia⟩
    cases sent with
    | inl none => exact .inl none
    | inr sent =>
        obtain ⟨sender, requests, reached, goes, builds, same⟩ := sent
        exact .inr ⟨sender, requests, reached, goes.tail step, builds, same⟩

end Reconciler

/-- Every pass ends, and within its budget, whatever record it is given and whatever the
outside answers, for ever if need be.  The settings must pass their check and ask for no
jitter, the clock may move only by the sleeps it is asked for, and the loops must be given
the rounds that the settings tell.  The sleeps then add up to at most four deadlines of a
read, one of a wait, and one of a write for each request of its update and three more. -/
theorem Reconciler.ends_within_budget {World : Type} (reconciler : Reconciler World)
    (adapter : Adapter) (record : Record) (goal : Goal) (world : World)
    {reading : World → Duration}
    (clock : reconciler.executor.environment.SleepsOnly reading)
    (valid : reconciler.settings.validate = .ok ())
    (steady : reconciler.settings.jitter = false)
    (enough : reconciler.settings.rounds ≤ reconciler.executor.rounds) :
    ∃ pass : Pass World adapter, pass.reconciler = reconciler ∧ pass.before = record ∧
      pass.goal = goal ∧ pass.world = world ∧
      ∃ requests : List Request,
        (requests = [] ∨
          ∃ standing, pass.Visits standing ∧ standing.Builds adapter requests) ∧
        slept pass.journal ≤ 4 * reconciler.settings.readPolicy.deadline +
          (requests.length + 3) * reconciler.settings.writePolicy.deadline +
          reconciler.settings.pollPolicy.deadline := by
  have timed : reconciler.IsTimed reading := ⟨clock, valid, steady, enough⟩
  have ends : (reconciler.pursue adapter record goal).Ends := timed.pursue_ends record goal
  obtain ⟨⟨after, outcome⟩, final, ran, -⟩ := ends (.fresh world)
  let pass : Pass World adapter :=
    { reconciler, goal, world, before := record, after, outcome, final, ran }
  refine ⟨pass, rfl, rfl, rfl, rfl, ?_⟩
  have begins : reconciler.WithinBudget adapter pass.opening pass.opening := by
    refine ⟨.refl, 0, .inl rfl, ?_⟩
    simp [Pass.opening, Session.fresh, slept]
  have within : reconciler.WithinBudget adapter pass.opening pass.ending :=
    invariant_of_runFrom (fun _ _ => withinBudget_of_step timed) pass.ranFrom begins
  obtain ⟨-, count, sent, spent⟩ := within
  cases sent with
  | inl none =>
      subst none
      exact ⟨[], .inl rfl, spent⟩
  | inr sent =>
      obtain ⟨sender, requests, reached, goes, builds, rfl⟩ := sent
      exact ⟨requests, .inr ⟨sender, ⟨reached, goes⟩, builds⟩, spent⟩

namespace Simulation

/-- An outside where nothing happens but sleeps, and the remote is busy for ever. -/
def stalled : Environment Duration where
  now world := (world, world)
  date _ := World.date
  cancelled _ := false
  sleep duration world := (true, world + duration)
  draw world := ((World.environment.draw {}).1, world)
  send _ world := (Server.busy.answer, world)
  describeTags _ world := (.error (.transport "no route" none), world)
  replaceTags _ _ world := (.error (.transport "no route" none), world)
  deleteTags _ _ world := (.error (.transport "no route" none), world)

theorem stalled_sleepsOnly : stalled.SleepsOnly fun world => world where
  shows := fun _ => rfl
  now := fun _ => rfl
  draw := fun _ => rfl
  send := fun _ _ => rfl
  describeTags := fun _ _ => rfl
  replaceTags := fun _ _ _ => rfl
  deleteTags := fun _ _ _ => rfl
  sleep := fun _ _ _ => rfl

namespace Server

/-- The reconciler of servers where the remote is busy for ever. -/
def stalledReconciler : Reconciler Duration where
  executor := ⟨stalled, .standard, reconciler.settings.rounds⟩
  catalog := .ofSchemas [schema]
  settings := reconciler.settings

theorem stalled_server_ends_within_budget :
    ((stalledReconciler.pursue adapter known (.reconcile (wanted 4 "secret" "blue"))
      (.fresh 0)).map fun ended => (ended.1.2.name, slept ended.2.journal)) =
      some ("timed_out", .ofSeconds 180) ∧
    ∃ pass : Pass Duration adapter, pass.reconciler = stalledReconciler ∧
      pass.before = known ∧ pass.goal = .reconcile (wanted 4 "secret" "blue") ∧
      pass.world = 0 ∧
      ∃ requests : List Request,
        (requests = [] ∨
          ∃ standing, pass.Visits standing ∧ standing.Builds adapter requests) ∧
        slept pass.journal ≤ 4 * stalledReconciler.settings.readPolicy.deadline +
          (requests.length + 3) * stalledReconciler.settings.writePolicy.deadline +
          stalledReconciler.settings.pollPolicy.deadline :=
  ⟨by decide +kernel, stalledReconciler.ends_within_budget adapter known _ 0
    stalled_sleepsOnly rfl rfl (Nat.le_refl _)⟩

end Server

end Simulation

end ControlLoop
