import ControlLoop.Retry

/-!
# Waiting for a status

Changes take effect some time after the call that asked for them.  `await` reads
the status of a resource at a fixed interval until the target is reached, a
failure status is seen, a read fails for good, the caller cancels, or the deadline
passes.  Each read is retried within the time that remains.
-/

namespace ControlLoop

/-- How a wait reached its target. -/
structure FinalStatus where
  status : ObservedStatus
  /-- The number of reads, counted without bound: a word of 32 bits agrees with it for
  fewer than `2 ^ 32` reads only. -/
  polls : Nat
  /-- Time from the first read until the target was seen. -/
  elapsed : Duration
  deriving DecidableEq, Repr

namespace Executor

variable {World : Type}

/-- What a status read came to: a status, where a resource that is not found is
absent, or the failure of the wait. -/
def statusOf (operation : String) (polls : Nat) (elapsed : Duration) :
    Except CallError ObservedStatus → Except PollError ObservedStatus
  | .ok status => .ok status
  | .error error =>
      if error.isNotFound then .ok .absent
      else .error <| match error with
        | .cancelled _ => .cancelled operation
        | .timeout _ _ _ lastError =>
            .timeout operation polls elapsed
              (lastError.map fun error => "read error: " ++ error.text)
        | error => .read operation error

/-- Read the status repeatedly, where `polls` reads have been made since the clock
showed `started`. -/
def awaitFrom (executor : Executor World) (operation : String) (target : Target)
    (policy : PollPolicy) (read : Run World (Except RemoteError ObservedStatus))
    (started : Duration) :
    (rounds : Nat) → (polls : Nat) → Run World (Except PollError FinalStatus)
  | 0, _ => Run.outOfRounds
  | rounds + 1, polls => do
      if ← executor.environment.isCancelled then
        return .error (.cancelled operation)
      else
        let elapsed := (← executor.environment.time) - started
        let readPolicy := policy.read.clampedTo (policy.deadline - elapsed)
        let answer ← executor.retry operation .read readPolicy read
        let elapsed := (← executor.environment.time) - started
        match statusOf operation (polls + 1) elapsed answer with
        | .error failure => return .error failure
        | .ok status =>
            match target.evaluate status with
            | .reached => return .ok ⟨status, polls + 1, elapsed⟩
            | .failed status => return .error (.terminalFailure operation status)
            | .pending =>
                if policy.deadline ≤ elapsed then
                  return .error
                    (.timeout operation (polls + 1) elapsed (some status.text))
                else if ← executor.environment.rest
                    (min policy.interval (policy.deadline - elapsed)) then
                  awaitFrom executor operation target policy read started rounds
                    (polls + 1)
                else
                  return .error (.cancelled operation)

/-- Wait until a status read decides. -/
def await (executor : Executor World) (operation : String) (target : Target)
    (policy : PollPolicy) (read : Run World (Except RemoteError ObservedStatus)) :
    Run World (Except PollError FinalStatus) := do
  let started ← executor.environment.time
  executor.awaitFrom operation target policy read started executor.rounds 0

end Executor

end ControlLoop
