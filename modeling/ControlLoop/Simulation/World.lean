import ControlLoop.Environment
import ControlLoop.Simulation.Clock
import ControlLoop.Simulation.Script
import ControlLoop.Tag.Client

/-!
# A simulated outside

The simulated world has a clock, scripted answers, and a cancellation that can be
planned: at a time, or at one of the sleeps.  Calls are counted, and the run is
cancelled at a fixed number of calls, so that a run against a script without end
comes to an end.  The tag service is reached through the same scripts.
-/

namespace ControlLoop.Simulation

/-- Cancellation at one of the sleeps of a step, counted from one. -/
structure SleepHook where
  sleep : Nat
  /-- Whether the sleep takes place first. -/
  during : Bool

/-- The state of a simulated outside. -/
structure World where
  kind : ClockKind := .manual
  clock : Clock := {}
  cancelled : Bool := false
  /-- The reading of a timer at which the run is cancelled.  It takes effect when time
  passes beyond that reading, in a sleep or in a call. -/
  cancelAt : Option Duration := none
  hook : Option SleepHook := none
  /-- Sleeps asked for in this step. -/
  sleeps : Nat := 0
  /-- Calls made in this step. -/
  calls : Nat := 0
  /-- The answers by action. -/
  scripts : KeyMap Script := .empty

namespace World

/-- The call of a step at which the run is cancelled. -/
def callLimit : Nat := 500

/-- Loops need no more rounds than this: every round makes a call. -/
def rounds : Nat := callLimit + 1

/-- Cancel the run. -/
def cancel (world : World) : World :=
  { world with cancelled := true }

/-- Whether the sleep that is being asked for is the planned one. -/
def isHooked (world : World) (during : Bool) : Bool :=
  world.hook.any fun hook => hook.sleep == world.sleeps && hook.during == during

/-- Sleep on a manual clock. -/
def sleepManually (duration : Duration) (world : World) : Bool × World :=
  let world := if world.isHooked false then world.cancel else world
  if world.cancelled then (false, world)
  else
    let world := { world with clock := world.clock.sleep duration }
    let world := if world.isHooked true then world.cancel else world
    (!world.cancelled, world)

/-- Sleep on a timer: a cancellation that is due before the end cuts the sleep
short; one that is overdue ends it at once. -/
def sleepOnTimer (duration : Duration) (world : World) : Bool × World :=
  if world.cancelled then (false, world)
  else
    match world.cancelAt with
    | some time =>
        if time < world.clock.elapsed + duration then
          (false, { world with
            clock := world.clock.sleep (time - world.clock.elapsed), cancelled := true })
        else (true, { world with clock := world.clock.sleep duration })
    | none => (true, { world with clock := world.clock.sleep duration })

/-- Sleep; false when the run was cancelled. -/
def sleep (duration : Duration) (world : World) : Bool × World :=
  let world := { world with sleeps := world.sleeps + 1 }
  match world.kind with
  | .manual => world.sleepManually duration
  | .timer => world.sleepOnTimer duration

/-- Let time pass in a call.  A call is never cut short, but a cancellation that was
due before its end is in effect when it answers. -/
def pass (duration : Duration) (world : World) : World :=
  let clock := world.clock.advance duration
  { world with
    clock
    cancelled := world.cancelled ||
      (world.kind == .timer && world.cancelAt.any (· < clock.elapsed)) }

/-- Count a call, cancelling the run at the limit. -/
def countCall (world : World) : World :=
  let world := { world with calls := world.calls + 1 }
  if callLimit ≤ world.calls then world.cancel else world

/-- Answer a call from the script of its action. -/
def send (request : Request) (world : World) : Except RemoteError Json × World :=
  let world := world.countCall
  match ((world.scripts.get? request.action).bind Script.next?) with
  | none => (.error (Script.exhausted request.action), world)
  | some (entry, rest) =>
      let world := { world.pass entry.advance with
        scripts := world.scripts.insert request.action rest }
      (entry.answer, if entry.cancels then world.cancel else world)

/-- The tag service is reached through the scripts. -/
def tagClient : TagClient World := ⟨send⟩

/-- Begin a step: forget the cancellation, the counts and the sleeps of the step
before, and load scripts over those of the same actions. -/
def beginStep (world : World) (scripts : List (String × Script))
    (cancelled : Bool) (cancelAfter : Option Duration) (hook : Option SleepHook) :
    World :=
  { world with
    cancelled, hook
    cancelAt := cancelAfter.map fun duration => world.clock.elapsed + duration
    clock := { world.clock with sleeps := [] }
    sleeps := 0
    calls := 0
    scripts := scripts.foldl (fun loaded entry => loaded.insert entry.1 entry.2)
      world.scripts }

/-- The date of everything that is simulated. -/
def date : Timestamp where
  year := 2000
  month := 1
  day := 1
  hour := 0
  minute := 0
  second := 0
  nanosecond := 0

/-- The simulated outside; pauses are not shortened. -/
def environment : Environment World where
  now world := (world.clock.elapsed, world)
  date _ := date
  cancelled := cancelled
  sleep := sleep
  draw world := (⟨0, by decide⟩, world)
  send := send
  describeTags := tagClient.describe
  replaceTags := tagClient.replace
  deleteTags := tagClient.delete

end World

end ControlLoop.Simulation
