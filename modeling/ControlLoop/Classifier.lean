import ControlLoop.Text.Blank
import ControlLoop.Remote

/-!
# Classifying remote errors

Error codes are dotted.  A classifier is a table of codes with verdicts; an error
code gets the verdict of the longest table entry among its stems, where a stem is
the code itself or what is left of it before one of its dots.  A code without an
entry is judged by the kind of the operation.  Failures without an answer may
always be retried, answers that cannot be understood never.
-/

namespace ControlLoop

/-- What a remote call is for, as far as its errors are concerned. -/
inductive OperationKind where
  /-- Create, update, delete or change tags. -/
  | write
  /-- Read a status or a state. -/
  | read
  /-- Read only to see whether the resource still exists. -/
  | existenceCheck
  deriving DecidableEq, Repr

namespace OperationKind

/-- All kinds. -/
def all : List OperationKind := [write, read, existenceCheck]

/-- The name of the kind. -/
def name : OperationKind → String
  | .write => "write"
  | .read => "read"
  | .existenceCheck => "existence_check"

/-- Read a kind. -/
def ofJson? (json : Json) : Option OperationKind :=
  json.choice?.bind fun name => all.find? fun kind => kind.name == name

end OperationKind

/-- How an error is to be handled. -/
inductive Verdict where
  /-- Try again after a pause. -/
  | retryable
  /-- Give up; the record stays usable. -/
  | nonRetryable
  /-- Give up; the record can no longer be trusted. -/
  | fatal
  deriving DecidableEq, Repr

namespace Verdict

/-- All verdicts. -/
def all : List Verdict := [retryable, nonRetryable, fatal]

/-- The name of the verdict. -/
def name : Verdict → String
  | .retryable => "retryable"
  | .nonRetryable => "non_retryable"
  | .fatal => "fatal"

/-- Read a verdict from JSON. -/
def ofJson? (json : Json) : Option Verdict :=
  json.choice?.bind fun name => all.find? fun verdict => verdict.name == name

/-- Read a verdict from configuration text, in any letter case. -/
def ofText? (text : String) : Option Verdict :=
  let word := String.ofList (Text.lower text.toList)
  if word == "nonretryable" then some .nonRetryable
  else all.find? fun verdict => verdict.name == word

/-- The message for a text that names no verdict. -/
def parseFailure (text : String) : String :=
  "invalid error verdict '" ++ text ++
    "', expected one of: retryable, non_retryable, fatal"

end Verdict

/-- A table of error codes and their verdicts. -/
structure Classifier where
  rules : KeyMap Verdict
  deriving DecidableEq, Repr

namespace Classifier

/-- The classifier without rules. -/
def empty : Classifier := ⟨.empty⟩

/-- Add a rule, replacing an earlier one for the same code. -/
def withRule (classifier : Classifier) (code : String) (verdict : Verdict) :
    Classifier :=
  ⟨classifier.rules.insert code verdict⟩

/-- Add several rules with one verdict. -/
def withRules (classifier : Classifier) (verdict : Verdict)
    (codes : List String) : Classifier :=
  codes.foldl (fun classifier code => classifier.withRule code verdict) classifier

/-- The built-in rules. -/
def standard : Classifier :=
  empty
    |>.withRules .retryable
      ["RequestLimitExceeded", "ResourceBusy", "InternalError", "ResourceInUse",
        "FailedOperation.ResourceInOperating"]
    |>.withRules .nonRetryable
      ["ResourceAlreadyExists", "InvalidParameterValue.NameDuplicated",
        "InvalidParameter", "InvalidParameterValue", "MissingParameter",
        "UnknownParameter", "ResourceNotFound"]
    |>.withRules .fatal ["AuthFailure", "UnauthorizedOperation", "OperationDenied"]

instance : Inhabited Classifier := ⟨standard⟩

/-- The code itself and what precedes each of its dots, longest first. -/
def stems (code : String) : List String :=
  let pieces := (code.toList.splitOn '.').map String.ofList
  (List.range pieces.length).reverse.map fun last =>
    ".".intercalate (pieces.take (last + 1))

/-- The verdict of the longest stem that has a rule. -/
def lookup? (classifier : Classifier) (code : String) : Option Verdict :=
  (stems code).findSome? classifier.rules.get?

/-- The verdict on a code without a rule. -/
def fallback : OperationKind → Verdict
  | .write => .retryable
  | .read => .retryable
  | .existenceCheck => .nonRetryable

/-- The verdict on an error of an operation. -/
def classify (classifier : Classifier) (error : RemoteError)
    (kind : OperationKind) : Verdict :=
  match error with
  | .api code _ _ => (classifier.lookup? code).getD (fallback kind)
  | .transport _ _ => .retryable
  | .decode _ => .nonRetryable

end Classifier

end ControlLoop
