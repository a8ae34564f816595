import ControlLoop.Environment
import ControlLoop.Failure

/-!
# Retrying calls

A call is attempted until it succeeds, fails in a way that repeating will not
help, is cancelled, or fails after the deadline of its policy.  Between attempts
the run sleeps for the pause of the policy, cut down to the time that remains.
-/

namespace ControlLoop

/-- What repeated calls need: the outside, the classification of failures, and a
bound on the rounds of one loop. -/
structure Executor (World : Type) where
  environment : Environment World
  classifier : Classifier
  /-- A loop that needs more rounds has no result. -/
  rounds : Nat

namespace Executor

variable {World α : Type}

/-- Attempt a call repeatedly, where `attempts` have been made and failed since
the clock showed `started`. -/
def retryFrom (executor : Executor World) (operation : String)
    (kind : OperationKind) (policy : RetryPolicy)
    (attempt : Run World (Except RemoteError α)) (started : Duration) :
    (rounds : Nat) → (attempts : Nat) → Run World (Except CallError α)
  | 0, _ => Run.outOfRounds
  | rounds + 1, attempts => do
      if ← executor.environment.isCancelled then
        return .error (.cancelled operation)
      else
        match ← attempt with
        | .ok result => return .ok result
        | .error failure =>
            match executor.classifier.classify failure kind with
            | .nonRetryable => return .error (.nonRetryable operation failure)
            | .fatal => return .error (.fatal operation failure)
            | .retryable =>
                let elapsed := (← executor.environment.time) - started
                if policy.deadline ≤ elapsed then
                  return .error
                    (.timeout operation (attempts + 1) elapsed (some failure))
                else
                  let pause ← executor.environment.pauseFor policy attempts
                  if ← executor.environment.rest
                      (min pause (policy.deadline - elapsed)) then
                    retryFrom executor operation kind policy attempt started rounds
                      (attempts + 1)
                  else
                    return .error (.cancelled operation)

/-- Attempt a call repeatedly. -/
def retry (executor : Executor World) (operation : String) (kind : OperationKind)
    (policy : RetryPolicy) (attempt : Run World (Except RemoteError α)) :
    Run World (Except CallError α) := do
  let started ← executor.environment.time
  executor.retryFrom operation kind policy attempt started executor.rounds 0

end Executor

end ControlLoop
