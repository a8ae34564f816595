import ControlLoop.Journal
import ControlLoop.Policy
import ControlLoop.Timestamp

/-!
# The outside of a run

An `Environment` answers for everything that a run does not decide itself: the
clock, sleeping, cancellation, chance, the remote side and the tag service.  Each
answer may depend on the state of the outside, a value of any type, and may change
it.

A `Run` is a computation that may use the environment.  It has no result when a
loop in it used up the rounds it was given.
-/

namespace ControlLoop

/-- The outside of a run, in terms of its state. -/
structure Environment (World : Type) where
  /-- The clock. -/
  now : World → Duration × World
  /-- The date, for the time stamps of records. -/
  date : World → Timestamp
  /-- Whether the caller has cancelled. -/
  cancelled : World → Bool
  /-- Sleep; false when cancellation came first. -/
  sleep : Duration → World → Bool × World
  /-- A random draw. -/
  draw : World → Fin RetryPolicy.drawRange × World
  /-- Make a remote call. -/
  send : Request → World → Except RemoteError Json × World
  describeTags : TagResource → World → Except RemoteError TagSet × World
  replaceTags : TagResource → TagSet → World → Except RemoteError Unit × World
  deleteTags : TagResource → KeySet → World → Except RemoteError Unit × World

/-- A computation that uses the outside; it has no result when a loop ran out of
rounds. -/
abbrev Run (World : Type) : Type → Type :=
  StateT (Session World) Option

namespace Run

variable {World α : Type}

/-- Give up because a loop used up its rounds. -/
def outOfRounds : Run World α :=
  fun _ => none

/-- Note an event. -/
def note (event : Event) : Run World Unit :=
  modify fun session => { session with journal := event :: session.journal }

/-- Let the world act. -/
def act (action : World → α × World) : Run World α :=
  modifyGet fun session =>
    let (result, world) := action session.world
    (result, { session with world })

/-- Look at the world. -/
def look (view : World → α) : Run World α :=
  return view (← get).world

end Run

/-- The failure of a call, if it failed. -/
def failureOf {α : Type} : Except RemoteError α → Option RemoteError
  | .ok _ => none
  | .error failure => some failure

namespace Environment

variable {World α : Type}

/-- Whether the caller has cancelled. -/
def isCancelled (environment : Environment World) : Run World Bool :=
  Run.look environment.cancelled

/-- The time on the clock. -/
def time (environment : Environment World) : Run World Duration :=
  Run.act environment.now

/-- The date. -/
def today (environment : Environment World) : Run World Timestamp :=
  Run.look environment.date

/-- Sleep; false when cancellation came first. -/
def rest (environment : Environment World) (duration : Duration) :
    Run World Bool := do
  let completed ← Run.act (environment.sleep duration)
  Run.note (.slept duration completed)
  return completed

/-- The pause after a failed attempt, counted from zero. -/
def pauseFor (environment : Environment World) (policy : RetryPolicy)
    (attempt : Nat) : Run World Duration :=
  if policy.jitter then do
    let draw ← Run.act environment.draw
    return policy.pause attempt draw
  else return policy.backoff attempt

/-- Make a remote call for a purpose. -/
def call (environment : Environment World) (purpose : Purpose)
    (request : Request) : Run World (Except RemoteError Json) := do
  let answer ← Run.act (environment.send request)
  Run.note (.called purpose request answer)
  return answer

/-- Make a call of the tag service. -/
def callTags (resource : TagResource) (call : TagCall)
    (action : World → Except RemoteError α × World) :
    Run World (Except RemoteError α) := do
  let answer ← Run.act action
  Run.note (.tagged resource call (failureOf answer))
  return answer

end Environment

end ControlLoop
