import ControlLoop.Proofs.Stage
import Mathlib.Logic.Relation

/-!
# Histories of passes

A history is a sequence of passes over one record, each starting from the record
that the one before left.  The outside may change freely between two passes, and
each pass may have a reconciler of its own: another environment, other settings,
another classifier or another catalog.
-/

namespace ControlLoop

/-- What a pass is asked to do. -/
inductive Goal where
  | reconcile (desired : DesiredState)
  | delete

namespace Goal

/-- The stage at which a pass begins. -/
def stage : Goal → Stage
  | .reconcile desired => .reconcile desired
  | .delete => .delete

end Goal

/-- Make a pass over a record. -/
def Reconciler.pursue {World : Type} (reconciler : Reconciler World) (adapter : Adapter)
    (record : Record) : Goal → Run World Result
  | .reconcile desired => reconciler.reconcile adapter record desired
  | .delete => reconciler.delete adapter record

/-- A property of standings that every step keeps holds wherever steps lead. -/
theorem Reconciler.invariant_of_steps {World : Type} {reconciler : Reconciler World}
    {adapter : Adapter} {opening standing : Standing World}
    {invariant : Standing World → Prop}
    (kept : ∀ standing next, invariant standing → reconciler.Step adapter standing next →
      invariant next)
    (steps : Relation.ReflTransGen (reconciler.Step adapter) opening standing)
    (begins : invariant opening) : invariant standing := by
  induction steps with
  | refl => exact begins
  | tail _ step ih => exact kept _ _ ih step

/-- A pass that has ended, with what it started from and what it left. -/
structure Pass (World : Type) (adapter : Adapter) where
  reconciler : Reconciler World
  goal : Goal
  /-- The outside at the start. -/
  world : World
  before : Record
  after : Record
  outcome : Outcome
  final : Session World
  ran : reconciler.pursue adapter before goal (.fresh world) =
    some ((after, outcome), final)

namespace Pass

/-- The pass that a reconciler makes, if its loops end within their rounds. -/
def ofEnded {World : Type} (reconciler : Reconciler World) (adapter : Adapter)
    (before : Record) (goal : Goal) (world : World)
    (ends : (reconciler.pursue adapter before goal (.fresh world)).isSome = true) :
    Pass World adapter where
  reconciler := reconciler
  goal := goal
  world := world
  before := before
  after := ((reconciler.pursue adapter before goal (.fresh world)).get ends).1.1
  outcome := ((reconciler.pursue adapter before goal (.fresh world)).get ends).1.2
  final := ((reconciler.pursue adapter before goal (.fresh world)).get ends).2
  ran := (Option.some_get ends).symm

/-- A pass starts from the record it was given, however long it would take to compute
that record. -/
theorem before_ofEnded {World : Type} {reconciler : Reconciler World} {adapter : Adapter}
    {before : Record} {goal : Goal} {world : World}
    (ends : (reconciler.pursue adapter before goal (.fresh world)).isSome = true) :
    (ofEnded reconciler adapter before goal world ends).before = before :=
  rfl

variable {World : Type} {adapter : Adapter} (pass : Pass World adapter)

/-- What the pass did to the outside, latest event first. -/
def journal : List Event :=
  pass.final.journal

theorem ranFrom :
    pass.reconciler.runFrom adapter pass.before pass.goal.stage (.fresh pass.world) =
      some ((pass.after, pass.outcome), pass.final) := by
  have ran := pass.ran
  cases goal : pass.goal with
  | reconcile desired =>
      rw [goal] at ran
      exact ran
  | delete =>
      rw [goal] at ran
      exact ran

/-- Where the pass begins. -/
def opening : Standing World :=
  ⟨pass.goal.stage, pass.before, .fresh pass.world⟩

/-- Where the pass ends. -/
def ending : Standing World :=
  ⟨.ended pass.outcome, pass.after, pass.final⟩

/-- The pass goes through a standing, on its way from its beginning to its end. -/
def Visits (standing : Standing World) : Prop :=
  Relation.ReflTransGen (pass.reconciler.Step adapter) pass.opening standing ∧
    Relation.ReflTransGen (pass.reconciler.Step adapter) standing pass.ending

theorem steps :
    Relation.ReflTransGen (pass.reconciler.Step adapter) pass.opening pass.ending :=
  Reconciler.invariant_of_runFrom (fun _ _ reached step => reached.tail step)
    pass.ranFrom .refl

end Pass

/-- Passes, latest first, that lead from one record to another. -/
inductive History {World : Type} {adapter : Adapter} (start : Record) :
    List (Pass World adapter) → Record → Prop where
  | nil : History start [] start
  | cons {passes : List (Pass World adapter)} {record : Record} :
      History start passes record → (pass : Pass World adapter) →
      pass.before = record → History start (pass :: passes) pass.after

namespace History

variable {World : Type} {adapter : Adapter} {start record : Record}
variable {passes : List (Pass World adapter)}

/-- A property of records that every pass of a history keeps holds before and after
every one of its passes. -/
theorem invariant (history : History start passes record) (property : Record → Prop)
    (kept : ∀ pass ∈ passes, property pass.before → property pass.after)
    (begins : property start) :
    property record ∧ ∀ pass ∈ passes, property pass.before ∧ property pass.after := by
  induction history with
  | nil => exact ⟨begins, by simp⟩
  | @cons passes record earlier pass continues ih =>
      obtain ⟨before, earlier⟩ := ih fun other member =>
        kept other (List.mem_cons_of_mem _ member)
      rw [← continues] at before
      have after := kept pass List.mem_cons_self before
      refine ⟨after, fun other member => ?_⟩
      rcases List.mem_cons.1 member with rfl | member
      · exact ⟨before, after⟩
      · exact earlier other member

end History

end ControlLoop
