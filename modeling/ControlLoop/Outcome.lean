import ControlLoop.Failure

/-!
# Outcomes

How a pass over a record ended.
-/

namespace ControlLoop

/-- How a pass ended. -/
inductive Outcome where
  /-- The remote state matches the desired state. -/
  | converged
  /-- The resource no longer exists. -/
  | deleted
  /-- The desired state changes fields that are fixed at creation. -/
  | frozen (violations : List FrozenField)
  /-- The remote failed. -/
  | failed (phase : Phase) (error : PassError)
  /-- Time ran out; the remote end state is unknown. -/
  | timedOut (phase : Phase) (error : PassError)
  /-- The caller cancelled; the remote end state is unknown. -/
  | cancelled (phase : Phase)
  /-- The record or the desired state cannot be used as given. -/
  | invalid (error : PassError)
  /-- The record was tainted by an earlier fatal error. -/
  | unusable
  deriving DecidableEq

namespace Outcome

/-- Whether the pass reached its goal. -/
def isSuccess : Outcome → Bool
  | .converged => true
  | .deleted => true
  | _ => false

/-- Whether the same pass may succeed when run again. -/
def isRetryable : Outcome → Bool
  | .timedOut .. => true
  | .cancelled _ => true
  | .failed _ error => error.isRetryable
  | _ => false

/-- The failure behind the outcome. -/
def error? : Outcome → Option PassError
  | .failed _ error => some error
  | .timedOut _ error => some error
  | .invalid error => some error
  | _ => none

/-- The name of the outcome. -/
def name : Outcome → String
  | .converged => "converged"
  | .deleted => "deleted"
  | .frozen _ => "frozen_field_violation"
  | .failed phase _ => phase.name ++ "_failed"
  | .timedOut .. => "timed_out"
  | .cancelled _ => "cancelled"
  | .invalid _ => "invalid"
  | .unusable => "unusable"

/-- The outcome in words. -/
def text (outcome : Outcome) : String :=
  match outcome with
  | .frozen violations =>
      "frozen fields changed: " ++ ", ".intercalate (violations.map FrozenField.field)
  | .timedOut phase error => phase.name ++ " timed out: " ++ error.text
  | .cancelled phase => phase.name ++ " cancelled"
  | .failed _ error => outcome.name ++ ": " ++ error.text
  | .invalid error => outcome.name ++ ": " ++ error.text
  | outcome => outcome.name

end Outcome

end ControlLoop
