import ControlLoop.Json.Selection
import ControlLoop.Json.Record
import ControlLoop.Policy
import ControlLoop.Text.Blank

/-!
# Settings

Time budgets and pauses of a reconciler.  Settings come from JSON, where missing
members take their defaults, or from environment variables that override a base;
either way they are checked at the end.
-/

namespace ControlLoop

/-- Time budgets and pauses. -/
structure Settings where
  readDeadlineSeconds : UInt64 := 180
  writeDeadlineSeconds : UInt64 := 300
  initialBackoffMilliseconds : UInt64 := 500
  maxBackoffMilliseconds : UInt64 := 10000
  jitter : Bool := true
  pollIntervalMilliseconds : UInt64 := 5000
  pollDeadlineSeconds : UInt64 := 1800
  deriving DecidableEq, Repr

/-- Why settings cannot be used. -/
inductive SettingsError where
  /-- The text is not JSON of the right shape. -/
  | unreadable
  /-- A setting has an unusable value. -/
  | invalid (field fault : String)
  /-- An environment variable does not hold what it should. -/
  | variable (name value expected : String)
  deriving DecidableEq, Repr

namespace SettingsError

/-- The fault in words. -/
def message : SettingsError → String
  | .unreadable => "malformed settings"
  | .invalid field fault => "invalid setting '" ++ field ++ "': " ++ fault
  | .variable name value expected =>
      "environment variable " ++ name ++ "='" ++ value ++ "' is not a valid " ++ expected

end SettingsError

namespace Settings

instance : Inhabited Settings := ⟨{}⟩

/-! ## Policies -/

/-- A retry policy with the given deadline. -/
def retryPolicy (settings : Settings) (deadline : Duration) : RetryPolicy where
  deadline := deadline
  initialBackoff := .ofMilliseconds settings.initialBackoffMilliseconds.toNat
  maxBackoff := .ofMilliseconds settings.maxBackoffMilliseconds.toNat
  jitter := settings.jitter

/-- The retry policy of reads. -/
def readPolicy (settings : Settings) : RetryPolicy :=
  settings.retryPolicy (.ofSeconds settings.readDeadlineSeconds.toNat)

/-- The retry policy of calls that change something. -/
def writePolicy (settings : Settings) : RetryPolicy :=
  settings.retryPolicy (.ofSeconds settings.writeDeadlineSeconds.toNat)

/-- The poll policy. -/
def pollPolicy (settings : Settings) : PollPolicy where
  interval := .ofMilliseconds settings.pollIntervalMilliseconds.toNat
  deadline := .ofSeconds settings.pollDeadlineSeconds.toNat
  read := settings.readPolicy

/-! ## Checks -/

/-- Check that the settings describe a usable schedule. -/
def validate (settings : Settings) : Except SettingsError Unit :=
  if settings.initialBackoffMilliseconds = 0 then
    .error (.invalid "initial_backoff_ms" "must be greater than zero")
  else if settings.maxBackoffMilliseconds < settings.initialBackoffMilliseconds then
    .error (.invalid "max_backoff_ms"
      s!"must be at least initial_backoff_ms ({settings.initialBackoffMilliseconds.toNat})")
  else if settings.pollIntervalMilliseconds = 0 then
    .error (.invalid "poll_interval_ms" "must be greater than zero")
  else .ok ()

theorem validate_eq_ok_iff {settings : Settings} :
    settings.validate = .ok () ↔
      0 < settings.initialBackoffMilliseconds ∧
      settings.initialBackoffMilliseconds ≤ settings.maxBackoffMilliseconds ∧
      0 < settings.pollIntervalMilliseconds := by
  grind [validate]

/-- The settings, if they pass the checks. -/
def validated (settings : Settings) : Except SettingsError Settings :=
  settings.validate.map fun _ => settings

/-! ## JSON -/

/-- The names of the members in JSON. -/
def fieldNames : List String :=
  ["read_deadline_secs", "write_deadline_secs", "initial_backoff_ms",
    "max_backoff_ms", "jitter", "poll_interval_ms", "poll_deadline_secs"]

/-- A number below `2 ^ 64`. -/
def word? (n : Nat) : Option UInt64 :=
  if n < UInt64.size then some (.ofNat n) else none

/-- Read a number below `2 ^ 64`. -/
def wordOfJson? (json : Json) : Option UInt64 :=
  json.natural?.bind word?

/-- Read settings without checking them; missing members take their defaults. -/
def ofJson? (json : Json) : Option Settings := do
  let base : Settings := {}
  let fields ← json.fields? fieldNames
  let word (name : String) (default : UInt64) :=
    Json.defaulted fields name wordOfJson? default
  let readDeadlineSeconds ← word "read_deadline_secs" base.readDeadlineSeconds
  let writeDeadlineSeconds ← word "write_deadline_secs" base.writeDeadlineSeconds
  let initialBackoffMilliseconds ←
    word "initial_backoff_ms" base.initialBackoffMilliseconds
  let maxBackoffMilliseconds ← word "max_backoff_ms" base.maxBackoffMilliseconds
  let jitter ← Json.defaulted fields "jitter" Json.bool? base.jitter
  let pollIntervalMilliseconds ← word "poll_interval_ms" base.pollIntervalMilliseconds
  let pollDeadlineSeconds ← word "poll_deadline_secs" base.pollDeadlineSeconds
  return {
    readDeadlineSeconds, writeDeadlineSeconds, initialBackoffMilliseconds,
    maxBackoffMilliseconds, jitter, pollIntervalMilliseconds, pollDeadlineSeconds }

/-- The settings as JSON. -/
def toJson (settings : Settings) : Json :=
  .object [
    ("read_deadline_secs", .integer settings.readDeadlineSeconds.toNat),
    ("write_deadline_secs", .integer settings.writeDeadlineSeconds.toNat),
    ("initial_backoff_ms", .integer settings.initialBackoffMilliseconds.toNat),
    ("max_backoff_ms", .integer settings.maxBackoffMilliseconds.toNat),
    ("jitter", .bool settings.jitter),
    ("poll_interval_ms", .integer settings.pollIntervalMilliseconds.toNat),
    ("poll_deadline_secs", .integer settings.pollDeadlineSeconds.toNat)]

/-- Load settings from text. -/
def ofText (text : String) : Except SettingsError Settings :=
  let shape := Json.Shape.record (fieldNames.map fun name => (name, .whole))
  match (Json.readSelected? shape text).bind ofJson? with
  | none => .error .unreadable
  | some settings => settings.validated

/-! ## Environment variables -/

/-- What the names of the variables start with. -/
def variableStem : String := "CONVERGE_"

/-- Read a number: blanks around it and a plus sign before it are allowed. -/
def wordOfText? (text : String) : Option UInt64 :=
  let digits := match Text.trim text with
    | '+' :: rest => rest
    | text => text
  (Text.decimal? digits).bind word?

/-- Read a truth value: blanks around it are allowed, letter case is free. -/
def boolOfText? (text : String) : Option Bool :=
  let word := String.ofList (Text.lower (Text.trim text))
  if ["1", "true", "yes", "on"].contains word then some true
  else if ["0", "false", "no", "off"].contains word then some false
  else none

/-- Set a number from the value of a variable. -/
def overrideWord (name value : String) (set : UInt64 → Settings) :
    Except SettingsError Settings :=
  match wordOfText? value with
  | some word => .ok (set word)
  | none => .error (.variable name value "non-negative integer")

/-- Apply one variable; names that mean nothing here are ignored. -/
def override (settings : Settings) (name value : String) :
    Except SettingsError Settings :=
  let word := overrideWord name value
  if name = variableStem ++ "READ_DEADLINE_SECS" then
    word fun n => { settings with readDeadlineSeconds := n }
  else if name = variableStem ++ "WRITE_DEADLINE_SECS" then
    word fun n => { settings with writeDeadlineSeconds := n }
  else if name = variableStem ++ "INITIAL_BACKOFF_MS" then
    word fun n => { settings with initialBackoffMilliseconds := n }
  else if name = variableStem ++ "MAX_BACKOFF_MS" then
    word fun n => { settings with maxBackoffMilliseconds := n }
  else if name = variableStem ++ "POLL_INTERVAL_MS" then
    word fun n => { settings with pollIntervalMilliseconds := n }
  else if name = variableStem ++ "POLL_DEADLINE_SECS" then
    word fun n => { settings with pollDeadlineSeconds := n }
  else if name = variableStem ++ "JITTER" then
    match boolOfText? value with
    | some jitter => .ok { settings with jitter }
    | none => .error (.variable name value "boolean")
  else .ok settings

/-- Apply variables in order. -/
def overrides (settings : Settings) :
    List (String × String) → Except SettingsError Settings
  | [] => .ok settings
  | (name, value) :: rest =>
      match settings.override name value with
      | .error fault => .error fault
      | .ok settings => settings.overrides rest

/-- Apply variables in order and check the result. -/
def withVariables (settings : Settings) (assignments : List (String × String)) :
    Except SettingsError Settings :=
  match settings.overrides assignments with
  | .error fault => .error fault
  | .ok settings => settings.validated

/-- Set a variable: a name that is set already keeps its place. -/
def setVariable (assignments : List (String × String)) (name value : String) :
    List (String × String) :=
  match assignments with
  | [] => [(name, value)]
  | (held, former) :: rest =>
      if held = name then (name, value) :: rest
      else (held, former) :: setVariable rest name value

/-- The settings of an environment that assignments filled in order.  It holds one
value for a name, the one set last. -/
def ofEnvironment (assignments : List (String × String)) :
    Except SettingsError Settings :=
  let default : Settings := {}
  default.withVariables
    (assignments.foldl (fun held (name, value) => setVariable held name value) [])

end Settings

end ControlLoop
