import ControlLoop.Duration

/-!
# Retry and poll policies

A retry policy gives a time budget and the pauses between attempts, which double
up to a bound.  A poll policy gives the pause between two status reads, a time
budget, and the retry policy of each read.
-/

namespace ControlLoop

/-- When to repeat a failed call. -/
structure RetryPolicy where
  /-- Time budget, from the first attempt on. -/
  deadline : Duration
  /-- Pause before the second attempt. -/
  initialBackoff : Duration
  /-- Longest pause. -/
  maxBackoff : Duration
  /-- Whether pauses are shortened at random. -/
  jitter : Bool
  deriving DecidableEq, Repr

namespace RetryPolicy

/-- The policy for calls that change something. -/
def write : RetryPolicy where
  deadline := .ofSeconds 300
  initialBackoff := .ofMilliseconds 500
  maxBackoff := .ofSeconds 10
  jitter := true

/-- The policy for reads. -/
def read : RetryPolicy :=
  { write with deadline := .ofSeconds 180 }

/-- The policy with its deadline cut down to the time that remains. -/
def clampedTo (policy : RetryPolicy) (remaining : Duration) : RetryPolicy :=
  { policy with deadline := min policy.deadline remaining }

/-- Attempts from this number on pause for the longest time. -/
def doublingLimit : Nat := 32

/-- The pause after a failed attempt, counted from zero, before it is shortened at
random: the first pause, doubled as often as attempts came before. -/
def backoff (policy : RetryPolicy) (attempt : Nat) : Duration :=
  if attempt < doublingLimit then
    min (policy.initialBackoff <<< attempt) policy.maxBackoff
  else policy.maxBackoff

/-- The range of random draws. -/
def drawRange : Nat := 1 <<< 53

/-- A pause shortened by up to a quarter; a draw of zero leaves it whole. -/
def shorten (pause : Duration) (draw : Fin drawRange) : Duration :=
  pause * (4 * drawRange - draw.val) / (4 * drawRange)

/-- The pause after a failed attempt. -/
def pause (policy : RetryPolicy) (attempt : Nat) (draw : Fin drawRange) : Duration :=
  if policy.jitter then shorten (policy.backoff attempt) draw
  else policy.backoff attempt

end RetryPolicy

/-- When to read a status again. -/
structure PollPolicy where
  /-- Pause between two reads. -/
  interval : Duration
  /-- Time budget, from the first read on. -/
  deadline : Duration
  /-- Retry policy of each read. -/
  read : RetryPolicy
  deriving DecidableEq, Repr

namespace PollPolicy

/-- The policy used where none is configured. -/
def standard : PollPolicy where
  interval := .ofSeconds 5
  deadline := .ofSeconds 1800
  read := .read

end PollPolicy

end ControlLoop
