import ControlLoop.Duration

/-!
# Simulated clocks

A simulated clock starts at zero and moves only when time is let pass.  A clock of
the `manual` kind sleeps to the end whatever happens meanwhile and keeps the list
of its sleeps; a clock of the `timer` kind stops sleeping at the moment of
cancellation.
-/

namespace ControlLoop.Simulation

/-- How a simulated clock sleeps. -/
inductive ClockKind where
  | manual
  | timer
  deriving DecidableEq, Repr

/-- A simulated clock. -/
structure Clock where
  elapsed : Duration := 0
  /-- The sleeps, latest first. -/
  sleeps : List Duration := []
  deriving DecidableEq, Repr

namespace Clock

/-- Let time pass without a sleep. -/
def advance (clock : Clock) (duration : Duration) : Clock :=
  { clock with elapsed := clock.elapsed + duration }

/-- Sleep to the end, and keep the sleep. -/
def sleep (clock : Clock) (duration : Duration) : Clock :=
  ⟨clock.elapsed + duration, duration :: clock.sleeps⟩

/-- The message of a sleep that was cancelled. -/
def cancelledMessage : String := "sleep cancelled"

end Clock

end ControlLoop.Simulation
