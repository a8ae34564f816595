import ControlLoop.Diff
import ControlLoop.Proofs.ByteOrder
import Mathlib.Data.List.Sort

/-!
# The least change

A comparison lists what has to be changed and nothing else.  Each declared field is compared
with one value of the baseline, if that has one (`Baseline.comparand?`), and what the field
asks for follows from its class and from whether the two are equivalent.  Nothing else in the
baseline matters: a baseline that holds nothing has no value for any field, so that its being
the first one needs no rule of its own.

Main statement: `diffAgainst_lists`.
-/

namespace ControlLoop

/-! ## What a field is compared with -/

namespace Baseline

/-- The value that a declared field is compared with: the applied one if reads never return
the field, and else the observed one or, for a field fixed at creation, failing that the
applied one. -/
def comparand? (baseline : Baseline) (field : FieldSchema) (name : String) : Option Value :=
  if field.writeOnly then baseline.appliedValue? name
  else if field.classification = .immutable then
    (baseline.observed.get? name).or (baseline.appliedValue? name)
  else baseline.observed.get? name

/-- A field is compared, unless reads never return it and nothing is known to have been
applied. -/
def Compares (baseline : Baseline) (field : FieldSchema) : Prop :=
  field.writeOnly = true → baseline.applied ≠ none

variable {baseline : Baseline} {field : FieldSchema}

theorem comparand?_of_readable (readable : field.writeOnly = false) (name : String) :
    baseline.comparand? field name = baseline.readableValue? field.classification name := by
  rw [comparand?, readable]
  cases field.classification <;> rfl

theorem comparand?_of_hidden (hidden : field.writeOnly = true) (name : String) :
    baseline.comparand? field name = baseline.appliedValue? name := by
  rw [comparand?, if_pos hidden]

theorem comparand?_of_mutable (readable : field.writeOnly = false)
    (mutable : field.classification = .mutable) (name : String) :
    baseline.comparand? field name = baseline.observed.get? name := by
  rw [comparand?, readable, mutable, if_neg nofun, if_neg nofun]

theorem comparand?_of_immutable (readable : field.writeOnly = false)
    (immutable : field.classification = .immutable) (name : String) :
    baseline.comparand? field name =
      (baseline.observed.get? name).or (baseline.appliedValue? name) := by
  rw [comparand?, readable, if_neg nofun, if_pos immutable]

theorem compares_iff :
    baseline.Compares field ↔ (field.writeOnly && baseline.applied.isNone) = false := by
  rw [Compares]
  cases field.writeOnly <;> cases baseline.applied <;> simp

theorem comparand?_of_not_compares (skips : ¬ baseline.Compares field) (name : String) :
    baseline.comparand? field name = none := by
  simp only [Compares, ne_eq, Classical.not_imp, not_not] at skips
  rw [comparand?_of_hidden skips.1, appliedValue?, skips.2]
  rfl

/-- A baseline that holds nothing has no value for any field. -/
theorem comparand?_of_isInitial (initial : baseline.isInitial = true) (field : FieldSchema)
    (name : String) : baseline.comparand? field name = none := by
  rw [isInitial, Bool.and_eq_true] at initial
  have unseen := KeyMap.isEmpty_iff.1 initial.1 name
  have unapplied : baseline.appliedValue? name = none := by
    rw [appliedValue?]
    cases given : baseline.applied with
    | none => rfl
    | some applied =>
        rw [given] at initial
        exact KeyMap.isEmpty_iff.1 initial.2 name
  rw [comparand?, unseen, unapplied]
  split
  · rfl
  · split <;> rfl

end Baseline

/-! ## What a field asks for -/

/-- An update is due: a mutable field is wanted with a value that is not equivalent to the
one it is compared with, or it has none to be compared with. -/
def FieldUpdate.IsDue (update : FieldUpdate) (desired : AttributeMap) (baseline : Baseline)
    (schema : ResourceSchema) : Prop :=
  desired.get? update.field = some update.new ∧
    ∃ field, schema.field? update.field = some field ∧ field.classification = .mutable ∧
      baseline.Compares field ∧ update.old = baseline.comparand? field update.field ∧
      ∀ current, update.old = some current →
        current.equivalent update.new field.compare = false

/-- A violation is due: a field fixed at creation is wanted with a value that is not
equivalent to the one it is compared with. -/
def FrozenField.IsDue (violation : FrozenField) (desired : AttributeMap)
    (baseline : Baseline) (schema : ResourceSchema) : Prop :=
  desired.get? violation.field = some violation.desired ∧
    ∃ field, schema.field? violation.field = some field ∧
      field.classification = .immutable ∧
      baseline.comparand? field violation.field = some violation.current ∧
      violation.current.equivalent violation.desired field.compare = false

namespace FieldDiff

variable {baseline : Baseline} {field : FieldSchema} {name : String} {wanted : Value}

/-- What a field asks for depends only on whether and with what it is compared. -/
theorem change?_eq :
    change? baseline field name wanted =
      if field.writeOnly && baseline.applied.isNone then none
      else changeFrom field false name wanted (baseline.comparand? field name) := by
  have initially (current : Option Value)
      (absent : baseline.isInitial = true → current = none) :
      changeFrom field baseline.isInitial name wanted current =
        changeFrom field false name wanted current := by
    cases initial : baseline.isInitial with
    | false => rfl
    | true =>
        rw [absent initial, changeFrom, changeFrom]
        cases field.classification <;> rfl
  have absent (initial : baseline.isInitial = true) :=
    Baseline.comparand?_of_isInitial initial field name
  rw [change?]
  cases hidden : field.writeOnly with
  | false =>
      rw [← Baseline.comparand?_of_readable hidden]
      exact initially _ absent
  | true =>
      rw [← Baseline.comparand?_of_hidden hidden]
      cases baseline.applied.isNone with
      | true => rfl
      | false => exact initially _ absent

theorem change?_of_not_compares (skips : ¬ baseline.Compares field) :
    change? baseline field name wanted = none := by
  rw [Baseline.compares_iff, Bool.not_eq_false] at skips
  rw [change?_eq, if_pos skips]

theorem change?_of_compares (compares : baseline.Compares field) :
    change? baseline field name wanted =
      changeFrom field false name wanted (baseline.comparand? field name) := by
  rw [Baseline.compares_iff] at compares
  rw [change?_eq, compares, if_neg nofun]

theorem change?_eq_update_iff {update : FieldUpdate} :
    change? baseline field name wanted = some (.update update) ↔
      update.field = name ∧ update.new = wanted ∧ field.classification = .mutable ∧
        baseline.Compares field ∧ update.old = baseline.comparand? field name ∧
        ∀ current, update.old = some current →
          current.equivalent wanted field.compare = false := by
  by_cases compares : baseline.Compares field
  · obtain ⟨name', old, new⟩ := update
    rw [change?_of_compares compares, changeFrom]
    cases cls : field.classification with
    | computed => simp
    | immutable => simp
    | mutable =>
        simp only [Option.ite_none_left_eq_some, Bool.not_eq_true, Option.some.injEq,
          FieldChange.update.injEq, FieldUpdate.mk.injEq, true_and]
        generalize baseline.comparand? field name = held
        constructor
        · rintro ⟨differs, rfl, rfl, rfl⟩
          refine ⟨rfl, rfl, compares, rfl, ?_⟩
          rintro current rfl
          exact differs
        · rintro ⟨rfl, rfl, -, rfl, differs⟩
          refine ⟨?_, rfl, rfl, rfl⟩
          cases old with
          | none => rfl
          | some current => exact differs current rfl
  · simp [change?_of_not_compares compares, compares]

theorem change?_eq_violation_iff {violation : FrozenField} :
    change? baseline field name wanted = some (.violation violation) ↔
      violation.field = name ∧ violation.desired = wanted ∧
        field.classification = .immutable ∧
        baseline.comparand? field name = some violation.current ∧
        violation.current.equivalent wanted field.compare = false := by
  by_cases compares : baseline.Compares field
  · obtain ⟨name', current, desired⟩ := violation
    rw [change?_of_compares compares, changeFrom]
    cases cls : field.classification with
    | computed => simp
    | mutable => simp
    | immutable =>
        simp only [Bool.false_or, Option.ite_none_left_eq_some, Bool.not_eq_true,
          Option.map_eq_some_iff, FieldChange.violation.injEq, FrozenField.mk.injEq,
          ↓existsAndEq, true_and]
        generalize baseline.comparand? field name = held
        constructor
        · rintro ⟨differs, rfl, rfl, rfl⟩
          exact ⟨rfl, rfl, rfl, differs⟩
        · rintro ⟨rfl, rfl, rfl, differs⟩
          exact ⟨differs, rfl, rfl, rfl⟩
  · simp [change?_of_not_compares compares, Baseline.comparand?_of_not_compares compares]

/-! ## What a comparison lists -/

/-- What an entry asks for, if its field is declared. -/
def asked? (baseline : Baseline) (schema : ResourceSchema) (entry : String × Value) :
    Option FieldChange :=
  (schema.field? entry.1).bind fun field => change? baseline field entry.1 entry.2

/-- What the entries ask for together, those of fields that are not declared left out. -/
def due (desired : AttributeMap) (baseline : Baseline) (schema : ResourceSchema) : FieldDiff :=
  .ofChanges (desired.entries.filterMap (asked? baseline schema))

/-- A comparison is refused for the first entry whose field is not declared, and else lists
what the entries ask for. -/
theorem changes_eq (baseline : Baseline) (schema : ResourceSchema)
    (entries : List (String × Value)) :
    changes baseline schema entries =
      match (entries.map Prod.fst).find? fun name => (schema.field? name).isNone with
      | some name => .error ⟨schema.resourceType, name⟩
      | none => .ok (entries.filterMap (asked? baseline schema)) := by
  induction entries with
  | nil => rfl
  | cons entry entries ih =>
      obtain ⟨name, wanted⟩ := entry
      rw [changes, ih, List.map_cons, List.find?_cons, List.filterMap_cons, asked?]
      cases schema.field? name with
      | none => rfl
      | some field =>
          simp only [Option.isNone_some, Option.bind_some]
          cases (entries.map Prod.fst).find? fun name => (schema.field? name).isNone with
          | some fault => rfl
          | none => cases change? baseline field name wanted <;> rfl

theorem mem_ofChanges_updates_iff {changes : List FieldChange} {update : FieldUpdate} :
    update ∈ (ofChanges changes).updates ↔ .update update ∈ changes := by
  rw [ofChanges, List.mem_filterMap]
  constructor
  · rintro ⟨change, among, isUpdate⟩
    cases change <;> cases isUpdate
    exact among
  · exact fun among => ⟨_, among, rfl⟩

theorem mem_ofChanges_violations_iff {changes : List FieldChange} {violation : FrozenField} :
    violation ∈ (ofChanges changes).violations ↔ .violation violation ∈ changes := by
  rw [ofChanges, List.mem_filterMap]
  constructor
  · rintro ⟨change, among, isViolation⟩
    cases change <;> cases isViolation
    exact among
  · exact fun among => ⟨_, among, rfl⟩

variable {schema : ResourceSchema} {desired : AttributeMap}

theorem asks_iff {change : FieldChange} :
    change ∈ desired.entries.filterMap (asked? baseline schema) ↔
      ∃ name wanted field, desired.get? name = some wanted ∧
        schema.field? name = some field ∧ change? baseline field name wanted = some change := by
  simp only [List.mem_filterMap, asked?, Option.bind_eq_some_iff, Prod.exists,
    KeyMap.get?_eq_some_iff]
  grind

theorem mem_due_updates_iff {update : FieldUpdate} :
    update ∈ (due desired baseline schema).updates ↔ update.IsDue desired baseline schema := by
  rw [due, mem_ofChanges_updates_iff, asks_iff]
  constructor
  · rintro ⟨name, wanted, field, isWanted, declared, asks⟩
    obtain ⟨rfl, rfl, isDue⟩ := change?_eq_update_iff.1 asks
    exact ⟨isWanted, field, declared, isDue⟩
  · rintro ⟨isWanted, field, declared, isDue⟩
    exact ⟨_, _, field, isWanted, declared, change?_eq_update_iff.2 ⟨rfl, rfl, isDue⟩⟩

theorem mem_due_violations_iff {violation : FrozenField} :
    violation ∈ (due desired baseline schema).violations ↔
      violation.IsDue desired baseline schema := by
  rw [due, mem_ofChanges_violations_iff, asks_iff]
  constructor
  · rintro ⟨name, wanted, field, isWanted, declared, asks⟩
    obtain ⟨rfl, rfl, isDue⟩ := change?_eq_violation_iff.1 asks
    exact ⟨isWanted, field, declared, isDue⟩
  · rintro ⟨isWanted, field, declared, isDue⟩
    exact ⟨_, _, field, isWanted, declared, change?_eq_violation_iff.2 ⟨rfl, rfl, isDue⟩⟩

/-- Whatever is picked from what the entries ask for comes in the order of the fields, if
each change asked for by an entry is picked under the name of its field. -/
theorem asked_increase {Picked : Type} {pick : FieldChange → Option Picked}
    {field : Picked → String}
    (named : ∀ {declaration name wanted change picked},
      change? baseline declaration name wanted = some change → pick change = some picked →
        field picked = name) :
    (((desired.entries.filterMap (asked? baseline schema)).filterMap pick).map
      (Text.bytes ∘ field)).Pairwise (· < ·) := by
  rw [List.filterMap_filterMap, List.pairwise_map, List.pairwise_filterMap]
  have fieldOf {entry : String × Value} {picked : Picked}
      (isPicked : (asked? baseline schema entry).bind pick = some picked) :
      field picked = entry.1 := by
    obtain ⟨change, asks, isPicked⟩ := Option.bind_eq_some_iff.1 isPicked
    obtain ⟨declaration, -, asks⟩ := Option.bind_eq_some_iff.1 asks
    exact named asks isPicked
  refine (List.pairwise_map.1 desired.sorted).imp ?_
  intro entry later before picked isPicked other isOther
  rw [Function.comp, Function.comp, fieldOf isPicked, fieldOf isOther]
  exact Text.bytes_lt_bytes_iff.2 before

/-- A diff lists what is due, in the order of the bytes of field names. -/
structure Lists (diff : FieldDiff) (desired : AttributeMap) (baseline : Baseline)
    (schema : ResourceSchema) : Prop where
  updates_increase : (diff.updates.map (Text.bytes ∘ FieldUpdate.field)).Pairwise (· < ·)
  updates : ∀ update, update ∈ diff.updates ↔ update.IsDue desired baseline schema
  violations_increase :
    (diff.violations.map (Text.bytes ∘ FrozenField.field)).Pairwise (· < ·)
  violations : ∀ violation,
    violation ∈ diff.violations ↔ violation.IsDue desired baseline schema

theorem due_lists : (due desired baseline schema).Lists desired baseline schema where
  updates_increase := by
    refine asked_increase fun {_ _ _ change _} asks isPicked => ?_
    cases change <;> cases isPicked
    exact (change?_eq_update_iff.1 asks).1
  updates _ := mem_due_updates_iff
  violations_increase := by
    refine asked_increase fun {_ _ _ change _} asks isPicked => ?_
    cases change <;> cases isPicked
    exact (change?_eq_violation_iff.1 asks).1
  violations _ := mem_due_violations_iff

/-- Lists with the same members, each in strictly increasing order of a key, are equal. -/
theorem eq_of_increase {Listed : Type} {key : Listed → List UInt8} {listed others : List Listed}
    (increase : (listed.map key).Pairwise (· < ·))
    (increases : (others.map key).Pairwise (· < ·))
    (same : ∀ member, member ∈ listed ↔ member ∈ others) : listed = others := by
  have irreflexive : Std.Irrefl fun left right => key left < key right :=
    ⟨fun _ => List.lt_irrefl _⟩
  have antisymmetric : Std.Antisymm fun left right => key left < key right :=
    ⟨fun _ _ less greater => absurd greater (List.lt_asymm less)⟩
  exact (List.pairwise_map.1 increase).eq_of_mem_iff (List.pairwise_map.1 increases) same

theorem Lists.unique {first other : FieldDiff} (lists : first.Lists desired baseline schema)
    (listed : other.Lists desired baseline schema) : first = other := by
  obtain ⟨updates, violations⟩ := first
  obtain ⟨updates', violations'⟩ := other
  rw [FieldDiff.mk.injEq]
  exact ⟨eq_of_increase lists.updates_increase listed.updates_increase fun update =>
      (lists.updates update).trans (listed.updates update).symm,
    eq_of_increase lists.violations_increase listed.violations_increase fun violation =>
      (lists.violations violation).trans (listed.violations violation).symm⟩

theorem lists_iff {diff : FieldDiff} :
    diff.Lists desired baseline schema ↔ due desired baseline schema = diff := by
  constructor
  · exact due_lists.unique
  · rintro rfl
    exact due_lists

end FieldDiff

/-- Every desired field is declared. -/
def ResourceSchema.Declares (schema : ResourceSchema) (desired : AttributeMap) : Prop :=
  ∀ name ∈ desired.keys, schema.field? name ≠ none

theorem ResourceSchema.Declares.field?_ne_none {schema : ResourceSchema}
    {desired : AttributeMap} {name : String} {wanted : Value} (declares : schema.Declares desired)
    (isWanted : desired.get? name = some wanted) : schema.field? name ≠ none :=
  declares name (KeyMap.mem_keys_iff.2 (Option.isSome_iff_exists.2 ⟨wanted, isWanted⟩))

/-- A refusal names the first desired field that is not declared, in the order of bytes. -/
structure UndeclaredField.IsFirst (fault : UndeclaredField) (desired : AttributeMap)
    (schema : ResourceSchema) : Prop where
  resourceType : fault.resourceType = schema.resourceType
  wanted : fault.field ∈ desired.keys
  undeclared : schema.field? fault.field = none
  least : ∀ name ∈ desired.keys, schema.field? name = none →
    Text.bytes fault.field ≤ Text.bytes name

section

variable {desired : AttributeMap} {baseline : Baseline} {schema : ResourceSchema}
variable {diff : FieldDiff}

theorem diffAgainst_eq (desired : AttributeMap) (baseline : Baseline)
    (schema : ResourceSchema) :
    diffAgainst desired baseline schema =
      match desired.keys.find? fun name => (schema.field? name).isNone with
      | some name => .error ⟨schema.resourceType, name⟩
      | none => .ok (.due desired baseline schema) := by
  rw [diffAgainst, FieldDiff.changes_eq, ← KeyMap.keys]
  cases desired.keys.find? fun name => (schema.field? name).isNone <;> rfl

theorem diffAgainst_eq_error_iff {fault : UndeclaredField} :
    diffAgainst desired baseline schema = .error fault ↔ fault.IsFirst desired schema := by
  have named : diffAgainst desired baseline schema = .error fault ↔
      fault.resourceType = schema.resourceType ∧
        (desired.keys.find? fun name => (schema.field? name).isNone) = some fault.field := by
    obtain ⟨resourceType, field⟩ := fault
    rw [diffAgainst_eq]
    cases desired.keys.find? fun name => (schema.field? name).isNone <;> simp [eq_comm]
  rw [named, KeyMap.keys, Text.find?_eq_some_iff desired.sorted]
  simp only [Option.isNone_iff_eq_none, ← Text.bytes_le_bytes_iff]
  constructor
  · rintro ⟨resourceType, wanted, undeclared, least⟩
    exact ⟨resourceType, wanted, undeclared, least⟩
  · rintro ⟨resourceType, wanted, undeclared, least⟩
    exact ⟨resourceType, wanted, undeclared, least⟩

theorem diffAgainst_eq_ok_iff :
    diffAgainst desired baseline schema = .ok diff ↔
      schema.Declares desired ∧ diff.Lists desired baseline schema := by
  have all : schema.Declares desired ↔
      (desired.keys.find? fun name => (schema.field? name).isNone) = none := by
    simp [ResourceSchema.Declares]
  rw [all, FieldDiff.lists_iff, diffAgainst_eq]
  cases desired.keys.find? fun name => (schema.field? name).isNone <;> simp

/-- Two baselines ask for the same, if they have the same value for every desired field and,
for mutable fields that reads never return, both or neither of them know what was applied. -/
def Baseline.AsksAs (baseline other : Baseline) (desired : AttributeMap)
    (schema : ResourceSchema) : Prop :=
  ∀ name ∈ desired.keys, ∀ field, schema.field? name = some field →
    field.classification ≠ .computed →
      baseline.comparand? field name = other.comparand? field name ∧
      (field.classification = .mutable → (baseline.Compares field ↔ other.Compares field))

variable {other : Baseline}

theorem Baseline.AsksAs.symm (asksAs : baseline.AsksAs other desired schema) :
    other.AsksAs baseline desired schema := by
  intro name wanted field declared settable
  obtain ⟨same, both⟩ := asksAs name wanted field declared settable
  exact ⟨same.symm, fun mutable => (both mutable).symm⟩

theorem FieldUpdate.IsDue.of_asksAs {update : FieldUpdate}
    (isDue : update.IsDue desired baseline schema)
    (asksAs : baseline.AsksAs other desired schema) : update.IsDue desired other schema := by
  obtain ⟨wanted, field, declared, mutable, compares, old, differs⟩ := isDue
  obtain ⟨same, both⟩ := asksAs update.field (KeyMap.mem_keys_iff.2 (by rw [wanted]; rfl))
    field declared (by rw [mutable]; nofun)
  exact ⟨wanted, field, declared, mutable, (both mutable).1 compares, old.trans same, differs⟩

theorem FrozenField.IsDue.of_asksAs {violation : FrozenField}
    (isDue : violation.IsDue desired baseline schema)
    (asksAs : baseline.AsksAs other desired schema) :
    violation.IsDue desired other schema := by
  obtain ⟨wanted, field, declared, immutable, current, differs⟩ := isDue
  obtain ⟨same, -⟩ := asksAs violation.field (KeyMap.mem_keys_iff.2 (by rw [wanted]; rfl))
    field declared (by rw [immutable]; nofun)
  exact ⟨wanted, field, declared, immutable, same.symm.trans current, differs⟩

theorem FieldDiff.Lists.of_asksAs (lists : diff.Lists desired baseline schema)
    (asksAs : baseline.AsksAs other desired schema) : diff.Lists desired other schema where
  updates_increase := lists.updates_increase
  updates update := (lists.updates update).trans
    ⟨fun isDue => isDue.of_asksAs asksAs, fun isDue => isDue.of_asksAs asksAs.symm⟩
  violations_increase := lists.violations_increase
  violations violation := (lists.violations violation).trans
    ⟨fun isDue => isDue.of_asksAs asksAs, fun isDue => isDue.of_asksAs asksAs.symm⟩

/-- Only what its fields are compared with decides what a comparison comes to. -/
theorem diffAgainst_eq_of_asksAs (asksAs : baseline.AsksAs other desired schema) :
    diffAgainst desired other schema = diffAgainst desired baseline schema := by
  cases compared : diffAgainst desired baseline schema with
  | error fault => exact diffAgainst_eq_error_iff.2 (diffAgainst_eq_error_iff.1 compared)
  | ok diff =>
      obtain ⟨declares, lists⟩ := diffAgainst_eq_ok_iff.1 compared
      exact diffAgainst_eq_ok_iff.2 ⟨declares, lists.of_asksAs asksAs⟩

namespace FieldDiff.Lists

variable {name : String}

theorem mutable (lists : diff.Lists desired baseline schema)
    (listed : name ∈ diff.updatedFields) :
    (schema.field? name).map FieldSchema.classification = some .mutable := by
  obtain ⟨update, member, rfl⟩ := List.mem_map.1 listed
  obtain ⟨-, field, declared, mutable, -⟩ := (lists.updates update).1 member
  rw [declared, Option.map_some, mutable]

theorem immutable (lists : diff.Lists desired baseline schema)
    (listed : name ∈ diff.violations.map FrozenField.field) :
    (schema.field? name).map FieldSchema.classification = some .immutable := by
  obtain ⟨violation, member, rfl⟩ := List.mem_map.1 listed
  obtain ⟨-, field, declared, immutable, -⟩ := (lists.violations violation).1 member
  rw [declared, Option.map_some, immutable]

end FieldDiff.Lists

/-- A comparison is refused for the first desired field that is not declared, and else lists
exactly what is due. -/
theorem diffAgainst_lists (desired : AttributeMap) (baseline : Baseline)
    (schema : ResourceSchema) :
    (∀ fault, diffAgainst desired baseline schema = .error fault ↔
      fault.IsFirst desired schema) ∧
    (∀ diff, diffAgainst desired baseline schema = .ok diff ↔
      schema.Declares desired ∧ diff.Lists desired baseline schema) ∧
    (∀ diff, diffAgainst desired baseline schema = .ok diff →
      diff.updatedFields.Disjoint (diff.violations.map FrozenField.field) ∧
      ∀ name field, schema.field? name = some field → field.classification = .computed →
        name ∉ diff.updatedFields ∧ name ∉ diff.violations.map FrozenField.field) ∧
    (∀ other, baseline.AsksAs other desired schema →
      diffAgainst desired other schema = diffAgainst desired baseline schema) := by
  refine ⟨fun fault => diffAgainst_eq_error_iff, fun diff => diffAgainst_eq_ok_iff, ?_,
    fun other asksAs => diffAgainst_eq_of_asksAs asksAs⟩
  intro diff compared
  obtain ⟨-, lists⟩ := diffAgainst_eq_ok_iff.1 compared
  refine ⟨?_, fun name field declared computed => ⟨?_, ?_⟩⟩
  · intro name updated violated
    cases (lists.mutable updated).symm.trans (lists.immutable violated)
  · intro updated
    have mutable := lists.mutable updated
    rw [declared, Option.map_some, computed] at mutable
    cases mutable
  · intro violated
    have immutable := lists.immutable violated
    rw [declared, Option.map_some, computed] at immutable
    cases immutable

end

end ControlLoop
