import ControlLoop.Proofs.Difference
import ControlLoop.State
import ControlLoop.Tag.Basic

/-!
# Agreement of desired and observed state

A comparison finds nothing to change when what was observed shows the desired
values.  `FieldSchema.Shows` says what that means for one field.  A comparison
against any baseline that finds nothing establishes it, and it is all that the
comparison against the desired state itself asks for: fields that reads never
return then agree with what was applied.
-/

namespace ControlLoop

theorem Value.equivalent_self (value : Value) (mode : CompareMode) :
    value.equivalent value mode = true := by
  cases mode <;> simp [equivalent]

/-- The value observed in a field, if any, shows the value wanted: a mutable field has
it, and a field fixed at creation has no other.  Nothing is asked of computed fields
or of those that reads never return. -/
def FieldSchema.Shows (field : FieldSchema) (observed : Option Value) (wanted : Value) :
    Prop :=
  field.writeOnly = false →
    match field.classification with
    | .computed => True
    | .immutable =>
        ∀ current, observed = some current → current.equivalent wanted field.compare = true
    | .mutable =>
        ∃ current, observed = some current ∧
          current.equivalent wanted field.compare = true

/-- The observed attributes show every desired value, in fields that the schema
declares. -/
def AttributeMap.Show (observed : AttributeMap) (schema : ResourceSchema)
    (desired : AttributeMap) : Prop :=
  ∀ name wanted, desired.get? name = some wanted →
    ∃ field, schema.field? name = some field ∧
      field.Shows (observed.get? name) wanted

namespace FieldDiff

variable {baseline : Baseline} {field : FieldSchema} {name : String} {wanted : Value}

/-- A comparison of a field that finds nothing shows the value wanted, whatever the
baseline. -/
theorem shows_of_change?_eq_none (nothing : change? baseline field name wanted = none) :
    field.Shows (baseline.observed.get? name) wanted := by
  intro readable
  rw [change?, readable, if_neg Bool.false_ne_true, changeFrom] at nothing
  cases cls : field.classification with
  | computed => trivial
  | mutable =>
      simp only [cls, Baseline.readableValue?] at nothing
      cases found : baseline.observed.get? name with
      | none => simp [found] at nothing
      | some current => simpa [found] using nothing
  | immutable =>
      intro current found
      simp only [cls, Baseline.readableValue?, found, Option.some_or] at nothing
      cases initial : baseline.isInitial with
      | true =>
          rw [Baseline.isInitial, Bool.and_eq_true] at initial
          rw [KeyMap.isEmpty_iff.1 initial.1 name] at found
          cases found
      | false => simpa [initial] using nothing

theorem changeFrom_eq_none {initial : Bool} {current : Option Value}
    (unchanged :
      (current.any fun current => current.equivalent wanted field.compare) = true) :
    changeFrom field initial name wanted current = none := by
  rw [changeFrom]
  cases field.classification <;> simp [unchanged]

/-- Against a baseline where the value wanted has been applied, a field that shows it
asks for nothing. -/
theorem change?_eq_none_of_shows (applied : baseline.appliedValue? name = some wanted)
    (shown : field.Shows (baseline.observed.get? name) wanted) :
    change? baseline field name wanted = none := by
  have same : (some wanted).any (fun current =>
      current.equivalent wanted field.compare) = true := wanted.equivalent_self _
  cases hidden : field.writeOnly with
  | true =>
      rw [change?, hidden, if_pos rfl, applied]
      split
      · rfl
      · exact changeFrom_eq_none same
  | false =>
      rw [change?, hidden, if_neg Bool.false_ne_true]
      have shown := shown hidden
      cases cls : field.classification with
      | computed => rw [changeFrom, cls]
      | mutable =>
          simp only [cls] at shown
          rcases shown with ⟨current, found, equal⟩
          dsimp only [Baseline.readableValue?]
          rw [found]
          exact changeFrom_eq_none equal
      | immutable =>
          simp only [cls] at shown
          dsimp only [Baseline.readableValue?]
          cases found : baseline.observed.get? name with
          | none =>
              rw [applied]
              exact changeFrom_eq_none same
          | some current => exact changeFrom_eq_none (shown current found)

theorem ofChanges_eq_empty_iff {changes : List FieldChange} :
    ofChanges changes = ⟨[], []⟩ ↔ changes = [] := by
  constructor
  · intro nothing
    cases changes with
    | nil => rfl
    | cons change changes => cases change <;> simp [ofChanges] at nothing
  · rintro rfl
    rfl

theorem eq_of_isEmpty {diff : FieldDiff} (nothing : diff.isEmpty = true) :
    diff = ⟨[], []⟩ := by
  rw [isEmpty, Bool.and_eq_true, List.isEmpty_iff, List.isEmpty_iff] at nothing
  cases diff
  rw [FieldDiff.mk.injEq]
  exact nothing

end FieldDiff

section

variable {desired : AttributeMap} {baseline : Baseline} {schema : ResourceSchema}

/-- Attributes that can be compared with one baseline can be compared with any. -/
theorem diffAgainst_eq_ok (other : Baseline) {diff : FieldDiff}
    (compared : diffAgainst desired baseline schema = .ok diff) :
    ∃ others, diffAgainst desired other schema = .ok others := by
  rcases diffAgainst_eq_ok_iff.1 compared with ⟨declares, -⟩
  exact ⟨_, diffAgainst_eq_ok_iff.2 ⟨declares, FieldDiff.due_lists⟩⟩

/-- A comparison finds nothing exactly when every field asks for nothing. -/
theorem diffAgainst_eq_empty_iff :
    diffAgainst desired baseline schema = .ok ⟨[], []⟩ ↔
      ∀ name wanted, desired.get? name = some wanted →
        ∃ field, schema.field? name = some field ∧
          FieldDiff.change? baseline field name wanted = none := by
  rw [diffAgainst_eq_ok_iff, FieldDiff.lists_iff, FieldDiff.due,
    FieldDiff.ofChanges_eq_empty_iff, List.eq_nil_iff_forall_not_mem]
  simp only [FieldDiff.asks_iff]
  constructor
  · rintro ⟨declares, nothing⟩ name wanted isWanted
    rcases Option.ne_none_iff_exists'.1 (declares.field?_ne_none isWanted) with ⟨field, declared⟩
    refine ⟨field, declared, Option.eq_none_iff_forall_ne_some.2 ?_⟩
    intro change asks
    exact nothing change ⟨name, wanted, field, isWanted, declared, asks⟩
  · intro nothing
    constructor
    · intro name member
      rcases Option.isSome_iff_exists.1 (KeyMap.mem_keys_iff.1 member) with ⟨wanted, isWanted⟩
      rcases nothing name wanted isWanted with ⟨field, declared, -⟩
      exact Option.ne_none_iff_exists'.2 ⟨field, declared⟩
    · rintro change ⟨name, wanted, field, isWanted, declared, asks⟩
      rcases nothing name wanted isWanted with ⟨same, declares, unasked⟩
      cases declared.symm.trans declares
      rw [unasked] at asks
      cases asks

/-- A comparison that finds nothing shows the desired values, whatever the baseline. -/
theorem show_of_diffAgainst (nothing : diffAgainst desired baseline schema = .ok ⟨[], []⟩) :
    baseline.observed.Show schema desired := by
  intro name wanted isWanted
  rcases diffAgainst_eq_empty_iff.1 nothing name wanted isWanted with
    ⟨field, declared, unchanged⟩
  exact ⟨field, declared, FieldDiff.shows_of_change?_eq_none unchanged⟩

/-- Once the desired values have been applied, a comparison finds nothing exactly when
what was observed shows them. -/
theorem diffAgainst_applied_iff {observed : AttributeMap} :
    diffAgainst desired ⟨observed, some desired⟩ schema = .ok ⟨[], []⟩ ↔
      observed.Show schema desired := by
  constructor
  · exact show_of_diffAgainst
  · intro shown
    apply diffAgainst_eq_empty_iff.2
    intro name wanted isWanted
    rcases shown name wanted isWanted with ⟨field, declared, shows⟩
    exact ⟨field, declared, FieldDiff.change?_eq_none_of_shows isWanted shows⟩

end

/-- Once the desired values have been applied, no field that reads never return is
listed. -/
theorem FieldUpdate.IsDue.readable {update : FieldUpdate} {desired observed : AttributeMap}
    {schema : ResourceSchema} (isDue : update.IsDue desired ⟨observed, some desired⟩ schema) :
    ∃ field, schema.field? update.field = some field ∧ field.writeOnly = false := by
  rcases isDue with ⟨wanted, field, declared, -, -, old, differs⟩
  refine ⟨field, declared, ?_⟩
  cases hidden : field.writeOnly with
  | false => rfl
  | true =>
      have applied : update.old = some update.new := by
        rw [old, Baseline.comparand?_of_hidden hidden]
        exact wanted
      have unequal := differs update.new applied
      rw [Value.equivalent_self] at unequal
      cases unequal

theorem FieldDiff.readable_of_mem_applied {diff : FieldDiff} {desired observed : AttributeMap}
    {schema : ResourceSchema} {name : String}
    (compared : diffAgainst desired ⟨observed, some desired⟩ schema = .ok diff)
    (listed : name ∈ diff.updatedFields) :
    ∃ field, schema.field? name = some field ∧ field.writeOnly = false := by
  rcases List.mem_map.1 listed with ⟨update, member, rfl⟩
  rcases diffAgainst_eq_ok_iff.1 compared with ⟨-, lists⟩
  exact ((lists.updates update).1 member).readable

/-- There is nothing to change between tag sets exactly when they are equal. -/
theorem TagDelta.between_isEmpty_iff {desired observed : TagSet} :
    (between desired observed).isEmpty = true ↔ observed = desired := by
  rw [isEmpty, Bool.and_eq_true, KeyMap.isEmpty_iff, KeyMap.isEmpty_iff]
  constructor
  · rintro ⟨nothingNew, nothingGone⟩
    apply KeyMap.ext_get?
    intro key
    have held := nothingNew key
    have wanted := nothingGone key
    rw [between, KeyMap.get?_filter] at held
    rw [between, KeyMap.get?_map, KeyMap.get?_filter, KeyMap.contains] at wanted
    cases inDesired : desired.get? key with
    | none =>
        cases inObserved : observed.get? key with
        | none => rfl
        | some value => simp [inDesired, inObserved] at wanted
    | some value => simpa [inDesired, Option.filter] using held
  · rintro rfl
    constructor <;> intro key <;> rw [between] <;>
      cases held : observed.get? key <;> simp [held, KeyMap.contains, Option.filter]

end ControlLoop
