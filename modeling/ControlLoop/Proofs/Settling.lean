import ControlLoop.Proofs.Agreement
import ControlLoop.Simulation.Server

/-!
# Applying a diff

Once the updates of a diff have been carried out, nothing is left to change: the next
comparison knows what was applied, and so compares fields that were passed over before, but it
finds them as they are wanted.  Carrying out some of the updates leaves the others, except for
fields that reads never return, of which only what was applied is known.

Main statement: `diffAgainst_settles`.
-/

namespace ControlLoop

namespace AttributeMap

/-- The attributes after updates have been carried out. -/
def overlaid (attributes : AttributeMap) (updates : List FieldUpdate) : AttributeMap :=
  updates.foldl (fun attributes update => attributes.insert update.field update.new) attributes

/-- Updates that are wanted set their fields to what is wanted, and no others. -/
theorem get?_overlaid {desired : AttributeMap} {updates : List FieldUpdate}
    (wanted : ∀ update ∈ updates, desired.get? update.field = some update.new)
    (attributes : AttributeMap) (name : String) :
    (attributes.overlaid updates).get? name =
      if name ∈ updates.map FieldUpdate.field then desired.get? name
      else attributes.get? name := by
  induction updates generalizing attributes with
  | nil => rfl
  | cons update updates ih =>
      obtain ⟨first, others⟩ := List.forall_mem_cons.1 wanted
      rw [overlaid, List.foldl_cons, ← overlaid, ih others, KeyMap.get?_insert, List.map_cons]
      by_cases later : name ∈ updates.map FieldUpdate.field
      · rw [if_pos later, if_pos (List.mem_cons_of_mem _ later)]
      · rw [if_neg later]
        by_cases same : name = update.field
        · rw [if_pos same, same, if_pos List.mem_cons_self, first]
        · rw [if_neg same, if_neg fun member =>
            (List.mem_cons.1 member).elim same later]

end AttributeMap

section

variable {desired : AttributeMap} {baseline : Baseline} {schema : ResourceSchema}
variable {diff : FieldDiff}

/-- Reads return the field, as far as it is declared. -/
def ResourceSchema.Returns (schema : ResourceSchema) (name : String) : Prop :=
  ∀ field, schema.field? name = some field → field.writeOnly = false

/-- The baseline after some updates have been carried out. -/
def Baseline.after (baseline : Baseline) (desired : AttributeMap)
    (carriedOut : List FieldUpdate) : Baseline :=
  ⟨baseline.observed.overlaid carriedOut, some desired⟩

namespace FieldDiff.Lists

theorem eq_of_field {update other : FieldUpdate} (lists : diff.Lists desired baseline schema)
    (listed : update ∈ diff.updates) (otherListed : other ∈ diff.updates)
    (same : update.field = other.field) : update = other :=
  List.inj_on_of_nodup_map lists.updates_increase.nodup listed otherListed
    (congrArg Text.bytes same)

variable {carriedOut : List FieldUpdate}

/-- After some listed updates have been carried out, their fields have the values wanted and
all others the values observed before. -/
theorem get?_after (lists : diff.Lists desired baseline schema)
    (listed : carriedOut ⊆ diff.updates) (name : String) :
    (baseline.after desired carriedOut).observed.get? name =
      if name ∈ carriedOut.map FieldUpdate.field then desired.get? name
      else baseline.observed.get? name :=
  AttributeMap.get?_overlaid
    (fun update member => ((lists.updates update).1 (listed member)).1) _ name

/-- After some listed updates have been carried out, the others are due, as far as reads
return their fields. -/
theorem isDue_after_iff (lists : diff.Lists desired baseline schema)
    (listed : carriedOut ⊆ diff.updates) {update : FieldUpdate} :
    update.IsDue desired (baseline.after desired carriedOut) schema ↔
      update ∈ diff.updates ∧ update ∉ carriedOut ∧ schema.Returns update.field := by
  constructor
  · intro isDue
    obtain ⟨field, declared, readable⟩ := isDue.readable
    obtain ⟨wanted, same, declares, mutable, -, old, differs⟩ := isDue
    cases declared.symm.trans declares
    rw [Baseline.comparand?_of_mutable readable mutable, lists.get?_after listed] at old
    have left : update.field ∉ carriedOut.map FieldUpdate.field := by
      intro among
      rw [if_pos among, wanted] at old
      have unequal := differs _ old
      rw [Value.equivalent_self] at unequal
      cases unequal
    rw [if_neg left] at old
    refine ⟨(lists.updates update).2 ⟨wanted, field, declared, mutable, ?_, ?_, differs⟩,
      fun member => left (List.mem_map_of_mem member), ?_⟩
    · intro hidden
      rw [readable] at hidden
      cases hidden
    · rw [Baseline.comparand?_of_mutable readable mutable, old]
    · intro same declares
      cases declared.symm.trans declares
      exact readable
  · rintro ⟨member, left, returned⟩
    obtain ⟨wanted, field, declared, mutable, -, old, differs⟩ :=
      (lists.updates update).1 member
    have left : update.field ∉ carriedOut.map FieldUpdate.field := by
      intro among
      obtain ⟨other, isOther, same⟩ := List.mem_map.1 among
      exact left (lists.eq_of_field (listed isOther) member same ▸ isOther)
    refine ⟨wanted, field, declared, mutable, nofun, ?_, differs⟩
    have readable := returned field declared
    rw [old, Baseline.comparand?_of_mutable readable mutable,
      Baseline.comparand?_of_mutable readable mutable, lists.get?_after listed, if_neg left]

/-- After some listed updates have been carried out, no field is frozen that was not before. -/
theorem not_isDue_after (lists : diff.Lists desired baseline schema)
    (listed : carriedOut ⊆ diff.updates) (inPlace : diff.violations = [])
    (violation : FrozenField) :
    ¬ violation.IsDue desired (baseline.after desired carriedOut) schema := by
  rintro ⟨wanted, field, declared, immutable, current, differs⟩
  have unapplied : desired.get? violation.field ≠ some violation.current := by
    intro applied
    rw [Option.some.inj (applied.symm.trans wanted), Value.equivalent_self] at differs
    cases differs
  cases hidden : field.writeOnly with
  | true =>
      rw [Baseline.comparand?_of_hidden hidden] at current
      exact unapplied current
  | false =>
      have untouched : violation.field ∉ carriedOut.map FieldUpdate.field := by
        intro among
        have mutable := lists.mutable (List.map_subset _ listed among)
        rw [declared, Option.map_some, immutable] at mutable
        cases mutable
      rw [Baseline.comparand?_of_immutable hidden immutable, lists.get?_after listed,
        if_neg untouched] at current
      cases observed : baseline.observed.get? violation.field with
      | none =>
          rw [observed, Option.none_or] at current
          exact unapplied current
      | some value =>
          rw [observed, Option.some_or] at current
          have isDue : violation.IsDue desired baseline schema := by
            refine ⟨wanted, field, declared, immutable, ?_, differs⟩
            rw [Baseline.comparand?_of_immutable hidden immutable, observed, Option.some_or,
              current]
          rw [← lists.violations, inPlace] at isDue
          cases isDue

end FieldDiff.Lists

/-- Leaving out updates of a diff without violations leaves them to be made, as far as reads
return their fields, and nothing else. -/
theorem diffAgainst_after {carriedOut left : List FieldUpdate}
    (compared : diffAgainst desired baseline schema = .ok diff) (inPlace : diff.violations = [])
    (listed : carriedOut ⊆ diff.updates) (isLeft : left.Sublist diff.updates)
    (remains : ∀ update, update ∈ left ↔
      update ∈ diff.updates ∧ update ∉ carriedOut ∧ schema.Returns update.field) :
    diffAgainst desired (baseline.after desired carriedOut) schema = .ok ⟨left, []⟩ := by
  obtain ⟨declares, lists⟩ := diffAgainst_eq_ok_iff.1 compared
  refine diffAgainst_eq_ok_iff.2 ⟨declares, ?_⟩
  exact {
    updates_increase := lists.updates_increase.sublist (isLeft.map _)
    updates := fun update => (remains update).trans (lists.isDue_after_iff listed).symm
    violations_increase := .nil
    violations := fun violation =>
      iff_of_false nofun (lists.not_isDue_after listed inPlace violation) }

/-- Carrying out a diff without violations leaves nothing to change, and every update of a
field that reads return is needed for that. -/
theorem diffAgainst_settles (compared : diffAgainst desired baseline schema = .ok diff)
    (inPlace : diff.violations = []) :
    diffAgainst desired ⟨baseline.observed.overlaid diff.updates, some desired⟩ schema =
      .ok ⟨[], []⟩ ∧
    ∀ update ∈ diff.updates, schema.Returns update.field →
      diffAgainst desired
        ⟨baseline.observed.overlaid (diff.updates.erase update), some desired⟩ schema =
          .ok ⟨[update], []⟩ := by
  constructor
  · refine diffAgainst_after compared inPlace (List.Subset.refl _) (List.nil_sublist _) ?_
    exact fun update => ⟨nofun, fun ⟨member, left, _⟩ => absurd member left⟩
  · intro update member returned
    obtain ⟨-, lists⟩ := diffAgainst_eq_ok_iff.1 compared
    refine diffAgainst_after compared inPlace List.erase_subset
      (List.singleton_sublist.2 member) ?_
    intro other
    rw [List.mem_singleton]
    constructor
    · rintro rfl
      exact ⟨member, lists.updates_increase.nodup.of_map.not_mem_erase, returned⟩
    · rintro ⟨isOther, left, -⟩
      apply Decidable.byContradiction
      intro different
      exact left ((List.mem_erase_of_ne different).2 isOther)

end

namespace Simulation.Server

/-- What was observed of a server with two cores, of which an earlier password is known. -/
def running : Baseline where
  observed := .ofList [("zone", .string "z1"), ("cores", .int 2)]
  applied := some (wanted 2 "old" "core").attributes

/-- The cores that an upgrade adds. -/
def moreCores : FieldUpdate := ⟨"cores", some (.int 2), .int 4⟩

/-- The password that an upgrade sets. -/
def newPassword : FieldUpdate := ⟨"password", some (.string "old"), .string "new"⟩

/-- An upgrade of a server settles it, and would not without the cores. -/
theorem upgraded_server_settles :
    diffAgainst (wanted 4 "new" "core").attributes running schema =
      .ok ⟨[moreCores, newPassword], []⟩ ∧
    diffAgainst (wanted 4 "new" "core").attributes
      ⟨running.observed.overlaid [moreCores, newPassword],
        some (wanted 4 "new" "core").attributes⟩ schema = .ok ⟨[], []⟩ ∧
    diffAgainst (wanted 4 "new" "core").attributes
      ⟨running.observed.overlaid [newPassword], some (wanted 4 "new" "core").attributes⟩
      schema = .ok ⟨[moreCores], []⟩ := by
  have compared : diffAgainst (wanted 4 "new" "core").attributes running schema =
      .ok ⟨[moreCores, newPassword], []⟩ := by decide +kernel
  have declared : schema.field? moreCores.field = some { classification := .mutable } := by
    decide +kernel
  obtain ⟨settled, needed⟩ := diffAgainst_settles compared rfl
  refine ⟨compared, settled, needed moreCores List.mem_cons_self ?_⟩
  intro field declares
  cases declared.symm.trans declares
  rfl

end Simulation.Server

end ControlLoop
