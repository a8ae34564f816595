import ControlLoop.Diff
import ControlLoop.Duration
import ControlLoop.Identifier
import ControlLoop.Record
import ControlLoop.Remote

/-!
# Failures of a pass

Failures are layered: what the remote said, what the retries of a call came to
(`CallError`), what a wait for a status came to (`PollError`) or a change of tags
(`TagError`), and all that can end a pass (`PassError`).  The layers keep apart
that nothing happened remotely, that something happened whose end is unknown (a
timeout or a cancellation), and that the remote failed.
-/

namespace ControlLoop

/-! ## Calls -/

/-- Why the retries of a call ended without a result. -/
inductive CallError where
  /-- Repeating the call will not help. -/
  | nonRetryable (operation : String) (source : RemoteError)
  /-- The record can no longer be trusted. -/
  | fatal (operation : String) (source : RemoteError)
  /-- Every attempt failed until the deadline.  The attempts are counted without bound: a
  word of 32 bits agrees with the count for fewer than `2 ^ 32` attempts only. -/
  | timeout (operation : String) (attempts : Nat) (elapsed : Duration)
      (lastError : Option RemoteError)
  | cancelled (operation : String)
  deriving DecidableEq, Repr

namespace CallError

/-- The remote failure behind this one. -/
def source? : CallError → Option RemoteError
  | .nonRetryable _ source => some source
  | .fatal _ source => some source
  | .timeout _ _ _ lastError => lastError
  | .cancelled _ => none

/-- Whether the remote reported the resource as missing. -/
def isNotFound : CallError → Bool
  | .nonRetryable _ source => source.isNotFound
  | _ => false

/-- Whether the record can no longer be trusted. -/
def isFatal : CallError → Bool
  | .fatal .. => true
  | _ => false

/-- Whether time ran out. -/
def isTimeout : CallError → Bool
  | .timeout .. => true
  | _ => false

/-- Whether the caller cancelled. -/
def isCancelled : CallError → Bool
  | .cancelled _ => true
  | _ => false

/-- Whether the step may be tried again later. -/
def isRetryable (error : CallError) : Bool :=
  error.isTimeout || error.isCancelled

/-- The failure as a code. -/
def code : CallError → String
  | .nonRetryable .. => "NON_RETRYABLE"
  | .fatal .. => "FATAL"
  | .timeout .. => "TIMEOUT"
  | .cancelled _ => "CANCELLED"

/-- The failure in words. -/
def text : CallError → String
  | .nonRetryable operation source => operation ++ " failed: " ++ source.text
  | .fatal operation source => operation ++ " failed fatally: " ++ source.text
  | .timeout operation attempts elapsed _ =>
      operation ++ s!" timed out after {attempts} attempt(s) in " ++ elapsed.text
  | .cancelled operation => operation ++ " cancelled"

/-- The failures below this one, outermost first. -/
def causes (error : CallError) : List String :=
  match error.source? with
  | some source => source.text :: source.causes
  | none => []

end CallError

/-! ## Polls -/

/-- Why a wait ended without reaching its target. -/
inductive PollError where
  /-- Time ran out, for the wait or for one of its status reads.  The reads are counted
  without bound: a word of 32 bits agrees with the count for fewer than `2 ^ 32` reads
  only. -/
  | timeout (operation : String) (polls : Nat) (elapsed : Duration)
      (lastStatus : Option String)
  /-- The remote reported a failure status. -/
  | terminalFailure (operation status : String)
  | cancelled (operation : String)
  /-- A status read failed for good. -/
  | read (operation : String) (source : CallError)
  deriving DecidableEq, Repr

namespace PollError

/-- Whether the record can no longer be trusted. -/
def isFatal : PollError → Bool
  | .read _ source => source.isFatal
  | _ => false

/-- Whether time ran out. -/
def isTimeout : PollError → Bool
  | .timeout .. => true
  | _ => false

/-- Whether the caller cancelled. -/
def isCancelled : PollError → Bool
  | .cancelled _ => true
  | _ => false

/-- Whether the step may be tried again later. -/
def isRetryable : PollError → Bool
  | .timeout .. => true
  | .terminalFailure .. => false
  | .cancelled _ => true
  | .read _ source => source.isRetryable

/-- The failure as a code. -/
def code : PollError → String
  | .timeout .. => "POLL_TIMEOUT"
  | .terminalFailure .. => "TERMINAL_FAILURE"
  | .cancelled _ => "CANCELLED"
  | .read .. => "POLL_READ_FAILED"

/-- The failure in words. -/
def text : PollError → String
  | .timeout operation polls elapsed lastStatus =>
      operation ++ s!" did not converge after {polls} poll(s) in " ++ elapsed.text ++
        " (last status: " ++ lastStatus.getD "unknown" ++ ")"
  | .terminalFailure operation status =>
      operation ++ " reached terminal failure status '" ++ status ++ "'"
  | .cancelled operation => operation ++ " cancelled while polling"
  | .read operation source => operation ++ " status read failed: " ++ source.text

/-- The failures below this one, outermost first. -/
def causes : PollError → List String
  | .read _ source => source.text :: source.causes
  | _ => []

end PollError

/-! ## Tags -/

/-- Which part of a change of tags failed. -/
inductive TagStep where
  | describe
  /-- Nothing was applied. -/
  | replace
  /-- So many pairs were set before the removal of keys failed. -/
  | delete (replaced : Nat)
  deriving DecidableEq, Repr

/-- Why a call of the tag service failed. -/
structure TagError where
  step : TagStep
  /-- The name of the resource on the tag service. -/
  resource : String
  source : CallError
  deriving DecidableEq, Repr

namespace TagError

/-- Whether the record can no longer be trusted. -/
def isFatal (error : TagError) : Bool :=
  error.source.isFatal

/-- Whether the step may be tried again later: always when the removal failed,
since the next comparison finds what is still missing. -/
def isRetryable (error : TagError) : Bool :=
  match error.step with
  | .delete _ => true
  | _ => error.source.isRetryable

/-- The failure in words. -/
def text (error : TagError) : String :=
  match error.step with
  | .describe =>
      "describing tags of " ++ error.resource ++ " failed: " ++ error.source.text
  | .replace =>
      "replacing tags of " ++ error.resource ++ " failed: " ++ error.source.text
  | .delete replaced =>
      "tags of " ++ error.resource ++
        s!" partially applied ({replaced} replaced, delete failed): " ++
        error.source.text

/-- The failures below this one, outermost first. -/
def causes (error : TagError) : List String :=
  error.source.text :: error.source.causes

end TagError

/-! ## Passes -/

/-- What can end a pass without success. -/
inductive PassError where
  | call (error : CallError)
  | poll (error : PollError)
  | tags (error : TagError)
  /-- The record's identifier does not fit the resource type. -/
  | identifier (error : IdentifierError)
  /-- The desired state does not fit the schema. -/
  | undeclared (fault : UndeclaredField)
  /-- An answer could not be turned into local state. -/
  | response (operation : String) (source : RemoteError)
  | unknownResourceType (resourceType : String)
  /-- The resource reached its target status and was then not found. -/
  | vanished (id : String)
  | invalidState (refusal : InvalidState)
  deriving DecidableEq, Repr

namespace PassError

/-- Whether the whole pass may be tried again later. -/
def isRetryable : PassError → Bool
  | .call error => error.isRetryable
  | .poll error => error.isRetryable
  | .tags error => error.isRetryable
  | .vanished _ => true
  | _ => false

/-- Whether time ran out, so that the remote end state is unknown. -/
def isTimeout : PassError → Bool
  | .call error => error.isTimeout
  | .poll error => error.isTimeout
  | .tags error => error.source.isTimeout
  | _ => false

/-- Whether the caller cancelled. -/
def isCancelled : PassError → Bool
  | .call error => error.isCancelled
  | .poll error => error.isCancelled
  | .tags error => error.source.isCancelled
  | _ => false

/-- Whether the record can no longer be trusted. -/
def isFatal : PassError → Bool
  | .call error => error.isFatal
  | .poll error => error.isFatal
  | .tags error => error.isFatal
  | _ => false

/-- The failure as a code. -/
def code : PassError → String
  | .call error => error.code
  | .poll error => error.code
  | .tags _ => "TAG_SYNC_FAILED"
  | .identifier error => error.code
  | .undeclared _ => "UNKNOWN_FIELD"
  | .response .. => "UNEXPECTED_RESPONSE"
  | .unknownResourceType _ => "UNKNOWN_RESOURCE_TYPE"
  | .vanished _ => "RESOURCE_VANISHED"
  | .invalidState _ => "INVALID_STATE"

/-- The failure in words. -/
def text : PassError → String
  | .call error => error.text
  | .poll error => error.text
  | .tags error => error.text
  | .identifier error => "invalid local identifier: " ++ error.message
  | .undeclared fault => fault.message
  | .response operation source => operation ++ ": " ++ source.text
  | .unknownResourceType resourceType =>
      "no schema registered for resource type '" ++ resourceType ++ "'"
  | .vanished id =>
      "resource " ++ id ++ " vanished right after reaching its target status"
  | .invalidState refusal => refusal.message

/-- The failures below this one, outermost first. -/
def causes : PassError → List String
  | .call error => error.causes
  | .poll error => error.causes
  | .tags error => error.causes
  | .identifier error => [error.message]
  | .response _ source => source.text :: source.causes
  | _ => []

end PassError

end ControlLoop
