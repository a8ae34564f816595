import ControlLoop.Json.Record

/-!
# The remote side

A remote call is an action name with a JSON payload.  It is answered by JSON, or
fails: the remote reports an error code, the call never gets an answer, or the
answer cannot be understood.
-/

namespace ControlLoop

/-- A remote call. -/
structure Request where
  action : String
  /-- The particulars of the call; an empty object where it has none. -/
  payload : Json := .object []
  deriving DecidableEq, Inhabited, Repr

namespace Request

/-- The names of the fields in JSON. -/
def fieldNames : List String := ["action", "payload"]

/-- Read a stored request. -/
def ofJson? (json : Json) : Option Request := do
  let fields ← json.fields? fieldNames
  let action ← Json.required fields "action" Json.string?
  let payload ← Json.required fields "payload" some
  return { action, payload }

/-- The request as JSON. -/
def toJson (request : Request) : Json :=
  .object [("action", .string request.action), ("payload", request.payload)]

end Request

/-- Why a remote call failed. -/
inductive RemoteError where
  /-- The remote answered with an error code. -/
  | api (code message : String) (requestId : Option String)
  /-- The call never got an answer; `source` is the underlying failure. -/
  | transport (message : String) (source : Option String)
  /-- The answer could not be understood. -/
  | decode (message : String)
  deriving DecidableEq, Repr

namespace RemoteError

/-- The error code, if the remote gave one. -/
def code? : RemoteError → Option String
  | .api code _ _ => some code
  | _ => none

/-- Whether a code says that the addressed resource does not exist. -/
def isNotFoundCode (code : String) : Bool :=
  code == "ResourceNotFound" ||
    "ResourceNotFound.".toList.isPrefixOf code.toList

/-- Whether the remote reported that the addressed resource does not exist. -/
def isNotFound (error : RemoteError) : Bool :=
  error.code?.any isNotFoundCode

/-- The failure in words. -/
def text : RemoteError → String
  | .api code message _ => "remote error [" ++ code ++ "]: " ++ message
  | .transport message _ => "transport error: " ++ message
  | .decode message => "unexpected response: " ++ message

/-- The failures below this one, outermost first. -/
def causes : RemoteError → List String
  | .transport _ (some source) => [source]
  | _ => []

end RemoteError

end ControlLoop
