import ControlLoop.Reconciler.Pass

/-!
# Encoded identifiers

Splitting an encoded form gives back its components, because no component holds the
separator.  So an identifier is determined by its encoded form, and decoding with
the right number of components never loses or changes it.
-/

namespace ControlLoop

namespace Identifier

/-- Joining texts and splitting the result again gives them back, if there are some and the
separator is in none of them. -/
theorem pieces_intercalate {parts : List String} (someParts : parts ≠ [])
    (separatorFree : ∀ part ∈ parts, '#' ∉ part.toList) :
    pieces ("#".intercalate parts) = parts := by
  have free : ∀ part ∈ parts.map String.toList, '#' ∉ part := by
    intro part member
    rcases List.mem_map.1 member with ⟨text, isPart, rfl⟩
    exact separatorFree text isPart
  have someTexts : parts.map String.toList ≠ [] := by
    rw [ne_eq, List.map_eq_nil_iff]
    exact someParts
  have separator : "#".toList = ['#'] := rfl
  rw [pieces, String.toList_intercalate, separator,
    List.splitOn_intercalate '#' free someTexts, List.map_map]
  simp [Function.comp_def]

theorem pieces_encoded (id : Identifier) : pieces id.encoded = id.parts :=
  pieces_intercalate id.parts_ne_nil fun part member => (id.parts_valid part member).2

theorem firstFault_eq_none {index : Nat} {parts : List String}
    (valid : ∀ part ∈ parts, part ≠ "" ∧ '#' ∉ part.toList) :
    firstFault index parts = none := by
  induction parts generalizing index with
  | nil => rfl
  | cons part parts ih =>
      rcases valid part List.mem_cons_self with ⟨nonempty, separatorFree⟩
      rw [firstFault, if_neg nonempty, if_neg separatorFree]
      exact ih fun other member => valid other (List.mem_cons_of_mem _ member)

theorem encode_eq_ok_iff {parts : List String} {id : Identifier} :
    encode parts = .ok id ↔ id.parts = parts := by
  constructor
  · intro encoded
    rw [encode] at encoded
    split at encoded
    · cases encoded
    · split at encoded
      · cases encoded
      · cases encoded
        rfl
  · rintro rfl
    rw [encode, dif_neg id.parts_ne_nil]
    split
    next fault found =>
      rw [firstFault_eq_none id.parts_valid] at found
      cases found
    next => rfl

/-- An encoded form decodes exactly with the number of components that it was made
of, and then to the identifier it was made from. -/
theorem decode_encoded_eq_ok_iff {id other : Identifier} {arity : Nat} :
    decode id.encoded arity = .ok other ↔ id.arity = arity ∧ other = id := by
  rw [decode, pieces_encoded]
  split
  next differs =>
    constructor
    · exact nofun
    · intro same
      exact absurd same.1 differs
  next same =>
    rw [encode_eq_ok_iff]
    constructor
    · intro equal
      refine ⟨Decidable.not_not.1 same, ?_⟩
      cases other
      cases id
      cases equal
      rfl
    · rintro ⟨-, rfl⟩
      rfl

end Identifier

namespace Reconciler

variable {adapter : Adapter} {record : Record}

theorem checkedId_eq_ok_none_iff :
    checkedId adapter record = .ok none ↔ record.localId = none := by
  rw [checkedId]
  cases record.localId with
  | none => simp
  | some id =>
      dsimp only
      cases Identifier.decode id.encoded adapter.idArity <;> simp [Except.map]

/-- A record's identifier passes the check exactly when it has the number of
components that the adapter expects. -/
theorem checkedId_eq_ok_some_iff {id : Identifier} :
    checkedId adapter record = .ok (some id) ↔
      record.localId = some id ∧ id.arity = adapter.idArity := by
  rw [checkedId]
  cases record.localId with
  | none => simp
  | some known =>
      dsimp only
      cases decoded : Identifier.decode known.encoded adapter.idArity with
      | error error =>
          simp only [Except.map, reduceCtorEq, Option.some.injEq, false_iff, not_and]
          rintro rfl sameArity
          rw [Identifier.decode_encoded_eq_ok_iff.2 ⟨sameArity, rfl⟩] at decoded
          cases decoded
      | ok other =>
          rcases Identifier.decode_encoded_eq_ok_iff.1 decoded with ⟨sameArity, rfl⟩
          simp only [Except.map, Except.ok.injEq, Option.some.injEq]
          constructor
          · rintro rfl
            exact ⟨rfl, sameArity⟩
          · intro same
            exact same.1

theorem localId_ne_none_of_checkedId {id : Identifier}
    (checked : checkedId adapter record = .ok (some id)) : record.localId ≠ none := by
  simp [(checkedId_eq_ok_some_iff.1 checked).1]

/-- A created identifier has the components that the adapter found in the answer. -/
theorem parts_of_createdId {desired : DesiredState} {request : Request} {answer : Json}
    {id : Identifier} (created : createdId adapter desired request answer = .ok id) :
    adapter.createdParts answer desired = .ok id.parts := by
  rw [createdId] at created
  cases found : adapter.createdParts answer desired with
  | error source =>
      rw [found] at created
      cases created
  | ok parts =>
      simp only [found] at created
      cases encoded : Identifier.encode parts with
      | error error =>
          rw [encoded] at created
          cases created
      | ok other =>
          rw [encoded] at created
          cases created
          rw [Identifier.encode_eq_ok_iff.1 encoded]

end Reconciler

end ControlLoop
