import ControlLoop.Settings
import Mathlib.Data.List.Basic
import Mathlib.Data.List.Perm.Basic

/-!
# Overriding settings

Each variable sets one field of the settings and leaves the others alone, so what a list of
variables makes of a base is described by its members: their order does not matter as long as
no name occurs twice.  The checks are made on the outcome only.

Main statement: `Settings.withVariables_unordered`.
-/

namespace ControlLoop.Settings

/-! ## Fields -/

/-- A field of the settings.  Each of them has a variable that overrides it. -/
inductive Field where
  | readDeadline | writeDeadline | initialBackoff | maxBackoff | pollInterval | pollDeadline
  | jitter
  deriving DecidableEq, Repr

namespace Field

/-- The type of what a field holds. -/
def Value : Field → Type
  | .jitter => Bool
  | _ => UInt64

/-- The name of the variable that overrides a field. -/
def variableName : Field → String
  | .readDeadline => variableStem ++ "READ_DEADLINE_SECS"
  | .writeDeadline => variableStem ++ "WRITE_DEADLINE_SECS"
  | .initialBackoff => variableStem ++ "INITIAL_BACKOFF_MS"
  | .maxBackoff => variableStem ++ "MAX_BACKOFF_MS"
  | .pollInterval => variableStem ++ "POLL_INTERVAL_MS"
  | .pollDeadline => variableStem ++ "POLL_DEADLINE_SECS"
  | .jitter => variableStem ++ "JITTER"

/-- What the variable of a field should hold, in words. -/
def expected : Field → String
  | .jitter => "boolean"
  | _ => "non-negative integer"

/-- Read the value of the variable of a field. -/
def read? : (field : Field) → String → Option field.Value
  | .readDeadline | .writeDeadline | .initialBackoff | .maxBackoff | .pollInterval
  | .pollDeadline => wordOfText?
  | .jitter => boolOfText?

/-- Different fields have different variables. -/
theorem variableName_inj {field other : Field} :
    field.variableName = other.variableName ↔ field = other := by
  cases field <;> cases other <;> decide

end Field

/-- What a field holds. -/
def get (settings : Settings) : (field : Field) → field.Value
  | .readDeadline => settings.readDeadlineSeconds
  | .writeDeadline => settings.writeDeadlineSeconds
  | .initialBackoff => settings.initialBackoffMilliseconds
  | .maxBackoff => settings.maxBackoffMilliseconds
  | .pollInterval => settings.pollIntervalMilliseconds
  | .pollDeadline => settings.pollDeadlineSeconds
  | .jitter => settings.jitter

/-- Replace what a field holds. -/
def set (settings : Settings) : (field : Field) → field.Value → Settings
  | .readDeadline, seconds => { settings with readDeadlineSeconds := seconds }
  | .writeDeadline, seconds => { settings with writeDeadlineSeconds := seconds }
  | .initialBackoff, pause => { settings with initialBackoffMilliseconds := pause }
  | .maxBackoff, pause => { settings with maxBackoffMilliseconds := pause }
  | .pollInterval, interval => { settings with pollIntervalMilliseconds := interval }
  | .pollDeadline, seconds => { settings with pollDeadlineSeconds := seconds }
  | .jitter, jitter => { settings with jitter := jitter }

variable {base settings : Settings} {assignments other : List (String × String)}
  {fault : SettingsError}

@[simp] theorem get_set_self (settings : Settings) (field : Field)
    (value : field.Value) : (settings.set field value).get field = value := by
  cases field <;> rfl

theorem get_set_of_ne {field query : Field} (different : query ≠ field)
    (settings : Settings) (value : field.Value) :
    (settings.set field value).get query = settings.get query := by
  cases field <;> cases query <;> first | rfl | exact absurd rfl different

/-- Settings are determined by what their fields hold. -/
theorem eq_of_get_eq {other : Settings}
    (same : ∀ field, settings.get field = other.get field) : settings = other := by
  cases settings
  cases other
  rw [Settings.mk.injEq]
  exact ⟨same .readDeadline, same .writeDeadline, same .initialBackoff, same .maxBackoff,
    same .jitter, same .pollInterval, same .pollDeadline⟩

/-! ## One variable -/

/-- Set a field to what the value of its variable reads as. -/
def assign (settings : Settings) (field : Field) (value : String) :
    Except SettingsError Settings :=
  match field.read? value with
  | some held => .ok (settings.set field held)
  | none => .error (.variable field.variableName value field.expected)

/-- The variables of the fields are tried one after the other. -/
theorem override_eq (settings : Settings) (name value : String) :
    settings.override name value =
      if name = Field.readDeadline.variableName then settings.assign .readDeadline value
      else if name = Field.writeDeadline.variableName then settings.assign .writeDeadline value
      else if name = Field.initialBackoff.variableName then settings.assign .initialBackoff value
      else if name = Field.maxBackoff.variableName then settings.assign .maxBackoff value
      else if name = Field.pollInterval.variableName then settings.assign .pollInterval value
      else if name = Field.pollDeadline.variableName then settings.assign .pollDeadline value
      else if name = Field.jitter.variableName then settings.assign .jitter value
      else .ok settings := by
  simp only [override, overrideWord, assign, Field.read?, Field.variableName, Field.expected,
    set]
  cases wordOfText? value <;> cases boolOfText? value <;> grind

theorem override_variableName (settings : Settings) (field : Field) (value : String) :
    settings.override field.variableName value = settings.assign field value := by
  cases field <;> simp [override_eq, Field.variableName_inj]

/-- Other names mean nothing. -/
theorem override_of_unknown {name : String}
    (unknown : ∀ field : Field, field.variableName ≠ name) (settings : Settings)
    (value : String) : settings.override name value = .ok settings := by
  have differs (field : Field) : name ≠ field.variableName := (unknown field).symm
  simp [override_eq, differs]

/-! ## Any number of variables -/

/-- What assignments make of a base: a field holds what its variable reads as, if it is
assigned, and what the base has otherwise.  Other names mean nothing. -/
structure Overridden (base : Settings) (assignments : List (String × String))
    (settings : Settings) : Prop where
  assigned : ∀ field value, (field.variableName, value) ∈ assignments →
    field.read? value = some (settings.get field)
  unassigned : ∀ field, field.variableName ∉ assignments.map Prod.fst →
    settings.get field = base.get field

/-- The variable of a field does not hold what it should, which is what a fault says. -/
def Misread (assignments : List (String × String)) (fault : SettingsError) : Prop :=
  ∃ field : Field, ∃ value, (field.variableName, value) ∈ assignments ∧
    field.read? value = none ∧ fault = .variable field.variableName value field.expected

namespace Overridden

theorem of_perm (permuted : assignments.Perm other)
    (overridden : Overridden base assignments settings) : Overridden base other settings where
  assigned field value member := overridden.assigned field value (permuted.mem_iff.2 member)
  unassigned field missing :=
    overridden.unassigned field fun member => missing ((permuted.map _).mem_iff.1 member)

/-- Assignments override a base in one way at most. -/
theorem unique {other : Settings} (overridden : Overridden base assignments settings)
    (otherwise : Overridden base assignments other) : settings = other := by
  refine eq_of_get_eq fun field => ?_
  by_cases named : field.variableName ∈ assignments.map Prod.fst
  · obtain ⟨⟨_, value⟩, member, rfl⟩ := List.mem_map.1 named
    have held := overridden.assigned field value member
    rw [otherwise.assigned field value member] at held
    exact (Option.some.inj held).symm
  · rw [overridden.unassigned field named, otherwise.unassigned field named]

theorem nil_iff : Overridden base [] settings ↔ settings = base := by
  constructor
  · intro overridden
    exact eq_of_get_eq fun field => overridden.unassigned field List.not_mem_nil
  · rintro rfl
    exact ⟨fun _ _ member => absurd member List.not_mem_nil, fun _ _ => rfl⟩

theorem cons_unknown_iff {name value : String}
    (unknown : ∀ field : Field, field.variableName ≠ name) :
    Overridden base ((name, value) :: assignments) settings ↔
      Overridden base assignments settings := by
  have here (field : Field) (held : String) : (field.variableName, held) ≠ (name, value) :=
    fun same => unknown field (congrArg Prod.fst same)
  constructor
  · intro overridden
    refine ⟨fun field held member => overridden.assigned field held (.tail _ member),
      fun field missing => overridden.unassigned field fun member => ?_⟩
    exact (List.mem_cons.1 member).elim (unknown field) missing
  · intro overridden
    refine ⟨fun field held member => ?_, fun field missing => ?_⟩
    · exact overridden.assigned field held
        ((List.mem_cons.1 member).resolve_left (here field held))
    · exact overridden.unassigned field fun member => missing (.tail _ member)

/-- Assigning a field once comes to the same as setting it first. -/
theorem cons_iff {field : Field} {value : String} {held : field.Value}
    (reads : field.read? value = some held)
    (once : field.variableName ∉ assignments.map Prod.fst) :
    Overridden base ((field.variableName, value) :: assignments) settings ↔
      Overridden (base.set field held) assignments settings := by
  constructor
  · intro overridden
    refine ⟨fun query text member => overridden.assigned query text (.tail _ member),
      fun query missing => ?_⟩
    by_cases same : query = field
    · subst same
      have here := overridden.assigned query value (.head _)
      rw [reads] at here
      rw [get_set_self, Option.some.inj here]
    · rw [get_set_of_ne same]
      refine overridden.unassigned query fun member => ?_
      rcases List.mem_cons.1 member with named | there
      · exact same (Field.variableName_inj.1 named)
      · exact missing there
  · intro overridden
    refine ⟨fun query text member => ?_, fun query missing => ?_⟩
    · rcases List.mem_cons.1 member with here | there
      · obtain ⟨named, rfl⟩ := Prod.mk.inj here
        obtain rfl := Field.variableName_inj.1 named
        rw [reads, overridden.unassigned query once, get_set_self]
      · exact overridden.assigned query text there
    · have different : query ≠ field := by
        rintro rfl
        exact missing (.head _)
      rw [overridden.unassigned query fun member => missing (.tail _ member),
        get_set_of_ne different]

end Overridden

/-- Overriding goes through exactly if every variable holds what it should. -/
theorem overrides_eq_ok_iff (distinct : (assignments.map Prod.fst).Nodup) :
    base.overrides assignments = .ok settings ↔ Overridden base assignments settings := by
  induction assignments generalizing base with
  | nil => rw [overrides, Overridden.nil_iff, Except.ok.injEq, eq_comm]
  | cons assignment rest ih =>
    obtain ⟨name, value⟩ := assignment
    obtain ⟨once, others⟩ := List.nodup_cons.1 distinct
    by_cases known : ∃ field : Field, field.variableName = name
    · obtain ⟨field, rfl⟩ := known
      rw [overrides, override_variableName, assign]
      cases reads : field.read? value with
      | none =>
        refine iff_of_false nofun fun overridden => ?_
        rw [overridden.assigned field value (.head _)] at reads
        cases reads
      | some held => exact (ih others).trans (Overridden.cons_iff reads once).symm
    · have unknown := not_exists.1 known
      rw [overrides, override_of_unknown unknown, Overridden.cons_unknown_iff unknown]
      exact ih others

/-- Overriding fails at a variable that does not hold what it should. -/
theorem misread_of_overrides (failed : base.overrides assignments = .error fault) :
    Misread assignments fault := by
  induction assignments generalizing base with
  | nil => cases failed
  | cons assignment rest ih =>
    obtain ⟨name, value⟩ := assignment
    have later {base : Settings} (failed : base.overrides rest = .error fault) :
        Misread ((name, value) :: rest) fault := by
      obtain ⟨field, text, member, unreadable, named⟩ := ih failed
      exact ⟨field, text, .tail _ member, unreadable, named⟩
    by_cases known : ∃ field : Field, field.variableName = name
    · obtain ⟨field, rfl⟩ := known
      rw [overrides, override_variableName, assign] at failed
      cases reads : field.read? value with
      | none =>
        simp only [reads, Except.error.injEq] at failed
        exact ⟨field, value, .head _, reads, failed.symm⟩
      | some held =>
        simp only [reads] at failed
        exact later failed
    · rw [overrides, override_of_unknown (not_exists.1 known)] at failed
      exact later failed

/-- A variable that does not hold what it should keeps overriding from going through. -/
theorem Misread.not_overridden (misread : Misread assignments fault) :
    ¬ Overridden base assignments settings := by
  intro overridden
  obtain ⟨field, value, member, unreadable, -⟩ := misread
  rw [overridden.assigned field value member] at unreadable
  cases unreadable

/-! ## The checks -/

/-- The outcome as a whole does not pass the checks. -/
def Refused (base : Settings) (assignments : List (String × String))
    (fault : SettingsError) : Prop :=
  ∃ settings, Overridden base assignments settings ∧ settings.validate = .error fault

theorem validated_eq_ok_iff {result : Settings} :
    settings.validated = .ok result ↔ settings = result ∧ result.validate = .ok () := by
  rw [validated]
  cases checked : settings.validate with
  | error fault =>
    refine iff_of_false nofun fun valid => ?_
    rw [← valid.1, checked] at valid
    cases valid.2
  | ok _ =>
    constructor
    · rintro ⟨⟩
      exact ⟨rfl, checked⟩
    · rintro ⟨rfl, -⟩
      rfl

theorem validated_eq_error_iff :
    settings.validated = .error fault ↔ settings.validate = .error fault := by
  cases checked : settings.validate <;> simp [validated, checked, Except.map]

theorem withVariables_eq_ok_iff (distinct : (assignments.map Prod.fst).Nodup) :
    base.withVariables assignments = .ok settings ↔
      Overridden base assignments settings ∧ settings.validate = .ok () := by
  rw [withVariables, ← overrides_eq_ok_iff distinct]
  cases base.overrides assignments with
  | error => simp
  | ok reached => rw [validated_eq_ok_iff, Except.ok.injEq]

theorem withVariables_eq_error (distinct : (assignments.map Prod.fst).Nodup)
    (failed : base.withVariables assignments = .error fault) :
    Misread assignments fault ∨ Refused base assignments fault := by
  rw [withVariables] at failed
  cases run : base.overrides assignments with
  | error misread =>
    rw [run] at failed
    cases failed
    exact .inl (misread_of_overrides run)
  | ok reached =>
    rw [run] at failed
    exact .inr ⟨reached, (overrides_eq_ok_iff distinct).1 run, validated_eq_error_iff.1 failed⟩

theorem withVariables_fails (distinct : (assignments.map Prod.fst).Nodup)
    (faulty : Misread assignments fault ∨ Refused base assignments fault) :
    ∃ fault, base.withVariables assignments = .error fault := by
  cases run : base.withVariables assignments with
  | error fault => exact ⟨fault, rfl⟩
  | ok settings =>
    obtain ⟨overridden, valid⟩ := (withVariables_eq_ok_iff distinct).1 run
    rcases faulty with misread | ⟨otherwise, reached, invalid⟩
    · exact absurd overridden misread.not_overridden
    · rw [overridden.unique reached, invalid] at valid
      cases valid

/-- The settings that a list of variables without repeated names makes of a base hold what
the variables read as, and pass the checks.  There are none exactly if a variable does not
hold what it should or if the settings as a whole do not pass the checks, and then the fault
is one of these.  None of this depends on the order of the list. -/
theorem withVariables_unordered (base : Settings) {assignments : List (String × String)}
    (distinct : (assignments.map Prod.fst).Nodup) :
    (∀ settings, base.withVariables assignments = .ok settings ↔
      Overridden base assignments settings ∧ settings.validate = .ok ()) ∧
    (∀ fault, base.withVariables assignments = .error fault →
      Misread assignments fault ∨ Refused base assignments fault) ∧
    ((∃ fault, base.withVariables assignments = .error fault) ↔
      ∃ fault, Misread assignments fault ∨ Refused base assignments fault) ∧
    ∀ other, assignments.Perm other → ∀ settings,
      base.withVariables other = .ok settings ↔ base.withVariables assignments = .ok settings := by
  refine ⟨fun _ => withVariables_eq_ok_iff distinct, fun _ => withVariables_eq_error distinct,
    ⟨fun ⟨fault, failed⟩ => ⟨fault, withVariables_eq_error distinct failed⟩,
      fun ⟨_, faulty⟩ => withVariables_fails distinct faulty⟩,
    fun other permuted settings => ?_⟩
  have apart : (other.map Prod.fst).Nodup := (permuted.map _).nodup_iff.1 distinct
  rw [withVariables_eq_ok_iff distinct, withVariables_eq_ok_iff apart]
  exact and_congr_left' ⟨.of_perm permuted.symm, .of_perm permuted⟩

/-- Pauses that are longer than the longest one of the defaults, which is raised later. -/
def raised : List (String × String) :=
  [("CONVERGE_INITIAL_BACKOFF_MS", " 20000"), ("PATH", "/usr/bin"),
    ("CONVERGE_MAX_BACKOFF_MS", "+30000"), ("CONVERGE_JITTER", "OFF")]

/-- The settings after the first variable would not pass the checks, but those at the end
do, and do so as well if the list is turned around. -/
theorem raised_unordered :
    let settings : Settings :=
      { initialBackoffMilliseconds := 20000, maxBackoffMilliseconds := 30000, jitter := false }
    (raised.map Prod.fst).Nodup ∧
      (∀ first, (default : Settings).overrides (raised.take 1) = .ok first →
        first.validate ≠ .ok ()) ∧
      Overridden default raised settings ∧
      (default : Settings).withVariables raised.reverse = .ok settings := by
  have distinct : (raised.map Prod.fst).Nodup := by decide
  obtain ⟨success, -, -, unordered⟩ := withVariables_unordered default distinct
  have run : (default : Settings).withVariables raised = .ok
      { initialBackoffMilliseconds := 20000, maxBackoffMilliseconds := 30000,
        jitter := false } := by
    decide +kernel
  refine ⟨distinct, ?_, ((success _).1 run).1, (unordered _ raised.reverse_perm.symm _).2 run⟩
  intro first reached
  cases reached
  rw [ne_eq, validate_eq_ok_iff]
  decide

end ControlLoop.Settings
