import ControlLoop.Proofs.Retagging
import Mathlib.Order.Bounds.Basic

/-!
# The least change of tags

A change of tags is a patch: it leads from the observed to the desired tags, no matter which
of its halves is applied first.  Among all changes that do so it is the least one, so that
every key in it is needed and no smaller change will do.

Main statement: `TagDelta.between_patches`.
-/

namespace ControlLoop

namespace KeyMap

variable {α : Type}

/-- A map is below another one that binds each of its keys to the same value. -/
instance : PartialOrder (KeyMap α) where
  le part whole := ∀ key value, part.get? key = some value → whole.get? key = some value
  le_refl _ _ _ := id
  le_trans _ _ _ first second key value bound := second key value (first key value bound)
  le_antisymm _ _ below above := ext_get? fun key =>
    Option.ext fun value => ⟨below key value, above key value⟩

end KeyMap

namespace TagDelta

/-! ## Changes as patches -/

/-- What becomes of tags when the pairs are set first and then the keys removed. -/
def setFirst (delta : TagDelta) (tags : TagSet) : TagSet :=
  (tags.insertAll delta.toReplace).eraseAll delta.toDelete

/-- What becomes of tags when the keys are removed first and then the pairs set. -/
def removeFirst (delta : TagDelta) (tags : TagSet) : TagSet :=
  (tags.eraseAll delta.toDelete).insertAll delta.toReplace

/-- A change is part of another one that sets its pairs and removes its keys. -/
instance : PartialOrder TagDelta where
  le part whole := part.toReplace ≤ whole.toReplace ∧ part.toDelete ≤ whole.toDelete
  le_refl _ := ⟨le_rfl, le_rfl⟩
  le_trans _ _ _ first second := ⟨first.1.trans second.1, first.2.trans second.2⟩
  le_antisymm := by
    rintro ⟨toReplace, toDelete⟩ ⟨toReplace', toDelete'⟩ below above
    rw [mk.injEq]
    exact ⟨le_antisymm below.1 above.1, le_antisymm below.2 above.2⟩

variable {delta : TagDelta} {desired observed : TagSet} {key : String} {value : String}

theorem get?_setFirst :
    (delta.setFirst observed).get? key =
      if (delta.toDelete.get? key).isSome then none
      else (delta.toReplace.get? key).or (observed.get? key) := by
  rw [setFirst, KeyMap.get?_eraseAll, KeyMap.get?_insertAll]

theorem get?_removeFirst :
    (delta.removeFirst observed).get? key =
      (delta.toReplace.get? key).or
        (if (delta.toDelete.get? key).isSome then none else observed.get? key) := by
  rw [removeFirst, KeyMap.get?_insertAll, KeyMap.get?_eraseAll]

/-! ## The change between two sets -/

/-- No key is both set and removed. -/
theorem toReplace_eq_none_of_toDelete
    (removed : ((between desired observed).toDelete.get? key).isSome = true) :
    (between desired observed).toReplace.get? key = none := by
  rw [get?_toDelete] at removed
  split at removed
  next unwanted => rw [get?_toReplace, unwanted, ite_self]
  next => cases removed

/-- Since no key is both set and removed, the halves can be exchanged. -/
theorem removeFirst_between :
    (between desired observed).removeFirst observed =
      (between desired observed).setFirst observed := by
  apply KeyMap.ext_get?
  intro key
  rw [get?_removeFirst, get?_setFirst]
  split
  next removed => rw [toReplace_eq_none_of_toDelete removed, Option.none_or]
  next => rfl

/-- A change is needed wherever the tags disagree. -/
theorem between_le
    (sets : ∀ key value, desired.get? key = some value → observed.get? key ≠ some value →
      delta.toReplace.get? key = some value)
    (removes : ∀ key, desired.get? key = none → observed.get? key ≠ none →
      (delta.toDelete.get? key).isSome = true) : between desired observed ≤ delta := by
  constructor
  · intro key value set
    rw [get?_toReplace, Option.ite_none_left_eq_some] at set
    obtain ⟨differs, wanted⟩ := set
    exact sets key value wanted fun same => differs (wanted.trans same.symm)
  · intro key _ removed
    rw [get?_toDelete, Option.ite_none_right_eq_some, Option.map_eq_some_iff] at removed
    obtain ⟨unwanted, held, found, -⟩ := removed
    obtain ⟨_, gone⟩ := Option.isSome_iff_exists.1 (removes key unwanted (found ▸ nofun))
    exact gone

/-- Every change that leads to the desired tags, with the pairs set first, contains this
one. -/
theorem between_le_of_setFirst (leads : delta.setFirst observed = desired) :
    between desired observed ≤ delta := by
  apply between_le
  · intro key value wanted differs
    rw [← leads, get?_setFirst] at wanted
    split at wanted
    next => cases wanted
    next => exact (Option.or_eq_some_iff.1 wanted).resolve_right fun kept => differs kept.2
  · intro key unwanted found
    rw [← leads, get?_setFirst] at unwanted
    split at unwanted
    next removed => exact removed
    next => exact absurd (Option.or_eq_none_iff.1 unwanted).2 found

/-- Every change that leads to the desired tags, with the keys removed first, contains this
one. -/
theorem between_le_of_removeFirst (leads : delta.removeFirst observed = desired) :
    between desired observed ≤ delta := by
  apply between_le
  · intro key value wanted differs
    rw [← leads, get?_removeFirst] at wanted
    rcases Option.or_eq_some_iff.1 wanted with set | ⟨-, kept⟩
    · exact set
    · rw [Option.ite_none_left_eq_some] at kept
      exact absurd kept.2 differs
  · intro key unwanted found
    rw [← leads, get?_removeFirst] at unwanted
    have gone := (Option.or_eq_none_iff.1 unwanted).2
    split at gone
    next removed => exact removed
    next => exact absurd gone found

theorem isLeast_setFirst :
    IsLeast {delta : TagDelta | delta.setFirst observed = desired}
      (between desired observed) :=
  ⟨eraseAll_insertAll desired observed, fun _ => between_le_of_setFirst⟩

theorem isLeast_removeFirst :
    IsLeast {delta : TagDelta | delta.removeFirst observed = desired}
      (between desired observed) :=
  ⟨removeFirst_between.trans (eraseAll_insertAll desired observed),
    fun _ => between_le_of_removeFirst⟩

/-- A key is in the change exactly when the tags disagree on it. -/
theorem mem_keys_between_iff :
    key ∈ (between desired observed).toReplace.keys ∨
        key ∈ (between desired observed).toDelete.keys ↔
      desired.get? key ≠ observed.get? key := by
  constructor
  · rintro (set | removed)
    · exact ne_of_mem_toReplace set
    · exact ne_of_mem_toDelete removed
  · intro differs
    rw [KeyMap.mem_keys_iff, KeyMap.mem_keys_iff, get?_toReplace, get?_toDelete,
      if_neg differs]
    cases wanted : desired.get? key with
    | some value => exact .inl rfl
    | none =>
        rw [wanted] at differs
        obtain ⟨held, found⟩ := Option.ne_none_iff_exists'.1 differs.symm
        rw [found]
        exact .inr rfl

/-- The change from observed to desired tags is the least one that leads from the former to
the latter, in either order of its halves: no key is in both of them, those in one of them
are the keys on which the tags disagree, nothing of it can be left out, and it is empty only
if the tags are equal. -/
theorem between_patches (desired observed : TagSet) :
    IsLeast {delta : TagDelta | delta.setFirst observed = desired}
      (between desired observed) ∧
    IsLeast {delta : TagDelta | delta.removeFirst observed = desired}
      (between desired observed) ∧
    (between desired observed).toReplace.keys.Disjoint
      (between desired observed).toDelete.keys ∧
    (∀ key, key ∈ (between desired observed).toReplace.keys ∨
        key ∈ (between desired observed).toDelete.keys ↔
      desired.get? key ≠ observed.get? key) ∧
    (∀ part < between desired observed,
      part.setFirst observed ≠ desired ∧ part.removeFirst observed ≠ desired) ∧
    ((between desired observed).isEmpty = true ↔ desired = observed) := by
  refine ⟨isLeast_setFirst, isLeast_removeFirst, ?_, fun _ => mem_keys_between_iff, ?_, ?_⟩
  · intro key set removed
    rw [KeyMap.mem_keys_iff] at set removed
    rw [toReplace_eq_none_of_toDelete removed] at set
    cases set
  · intro part less
    exact ⟨fun leads => less.not_ge (between_le_of_setFirst leads),
      fun leads => less.not_ge (between_le_of_removeFirst leads)⟩
  · rw [between_isEmpty_iff, eq_comm]

example :
    between (.ofList [("a", "1"), ("b", "2")]) (.ofList [("b", "3"), ("c", "4")]) =
      ⟨.ofList [("a", "1"), ("b", "2")], .ofKeys ["c"]⟩ := by
  decide +kernel

end TagDelta

end ControlLoop
