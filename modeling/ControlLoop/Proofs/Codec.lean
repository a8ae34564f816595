import ControlLoop.Proofs.Identifier
import Mathlib.Logic.ExistsUnique

/-!
# Identifiers and their encoded forms

Every text is made of pieces in exactly one way: it can be cut at its separators only, and
all of them are cuts.  So lists of components that can be encoded correspond to the texts of
which no piece is empty, in both directions, and what is wrong with any other text is either
the number of its pieces or the first of them that is empty.

Main statement: `Identifier.codec_bijects`.
-/

namespace ControlLoop.Identifier

/-! ## Pieces -/

/-- Components are valid if there are some, none of them empty and none with a separator
in it. -/
structure ValidParts (parts : List String) : Prop where
  nonempty : parts ≠ []
  each : ∀ part ∈ parts, part ≠ "" ∧ '#' ∉ part.toList

/-- A text is made of pieces: they have no separators in them, and joined by separators they
are the text. -/
structure IsMadeOf (text : String) (parts : List String) : Prop where
  nonempty : parts ≠ []
  separatorFree : ∀ part ∈ parts, '#' ∉ part.toList
  joined : "#".intercalate parts = text

variable {text : String} {parts : List String} {id : Identifier} {arity : Nat}
variable {fault : IdentifierError}

theorem separator_not_mem {chars piece : List Char} (member : piece ∈ chars.splitOn '#') :
    '#' ∉ piece := by
  induction chars generalizing piece with
  | nil =>
      rw [List.splitOn_nil, List.mem_singleton] at member
      rw [member]
      nofun
  | cons char chars ih =>
      rw [List.splitOn_cons_eq_if_modifyHead] at member
      split at member
      next =>
        rcases List.mem_cons.1 member with rfl | later
        · nofun
        · exact ih later
      next different =>
        obtain ⟨first, others, split⟩ :=
          List.exists_cons_of_ne_nil (List.splitOn_ne_nil '#' chars)
        rw [split, List.modifyHead_cons] at member
        rcases List.mem_cons.1 member with rfl | later
        · rw [List.mem_cons, not_or]
          exact ⟨fun same => different (beq_iff_eq.2 same.symm),
            ih (split ▸ List.mem_cons_self)⟩
        · exact ih (split ▸ List.mem_cons_of_mem _ later)

/-- A text is made of its pieces, and of no others. -/
theorem isMadeOf_iff : IsMadeOf text parts ↔ pieces text = parts := by
  constructor
  · rintro ⟨nonempty, separatorFree, rfl⟩
    exact pieces_intercalate nonempty separatorFree
  · rintro rfl
    refine ⟨?_, ?_, ?_⟩
    · simp [pieces]
    · intro part member
      obtain ⟨piece, isPiece, rfl⟩ := List.mem_map.1 member
      rw [String.toList_ofList]
      exact separator_not_mem isPiece
    · have separator : "#".toList = ['#'] := rfl
      rw [← String.toList_inj, String.toList_intercalate, separator, pieces, List.map_map]
      simp [Function.comp_def, List.intercalate_splitOn]

theorem isMadeOf_pieces (text : String) : IsMadeOf text (pieces text) :=
  isMadeOf_iff.2 rfl

theorem ValidParts.isMadeOf (valid : ValidParts parts) :
    IsMadeOf ("#".intercalate parts) parts :=
  ⟨valid.nonempty, fun part member => (valid.each part member).2, rfl⟩

/-! ## Success -/

theorem encode_succeeds_iff : (∃ id, encode parts = .ok id) ↔ ValidParts parts := by
  simp only [encode_eq_ok_iff]
  constructor
  · rintro ⟨id, rfl⟩
    exact ⟨id.parts_ne_nil, id.parts_valid⟩
  · rintro ⟨nonempty, valid⟩
    exact ⟨⟨parts, nonempty, valid⟩, rfl⟩

theorem decode_eq_ok_iff :
    decode text arity = .ok id ↔ id.encoded = text ∧ id.arity = arity := by
  constructor
  · intro decoded
    rw [decode] at decoded
    split at decoded
    next => cases decoded
    next same =>
      have isMade := isMadeOf_iff.2 (encode_eq_ok_iff.1 decoded).symm
      refine ⟨isMade.joined, ?_⟩
      rw [Identifier.arity, encode_eq_ok_iff.1 decoded]
      exact Decidable.not_not.1 same
  · rintro ⟨rfl, same⟩
    exact decode_encoded_eq_ok_iff.2 ⟨same, rfl⟩

theorem parse_eq_ok_iff : parse text = .ok id ↔ id.encoded = text := by
  rw [parse, decode_eq_ok_iff]
  refine and_iff_left_of_imp ?_
  rintro rfl
  rw [pieces_encoded, Identifier.arity]

theorem decode_succeeds_iff :
    (∃ id, decode text arity = .ok id) ↔
      ∃ parts, ValidParts parts ∧ parts.length = arity ∧ "#".intercalate parts = text := by
  simp only [decode_eq_ok_iff]
  constructor
  · rintro ⟨id, rfl, same⟩
    exact ⟨id.parts, ⟨id.parts_ne_nil, id.parts_valid⟩, same, rfl⟩
  · rintro ⟨parts, ⟨nonempty, valid⟩, same, joined⟩
    exact ⟨⟨parts, nonempty, valid⟩, joined, same⟩

/-! ## Failure -/

/-- The first empty one of some texts. -/
structure IsFirstEmpty (parts : List String) (position : Nat) : Prop where
  empty : parts[position]? = some ""
  first : ∀ earlier < position, parts[earlier]? ≠ some ""

theorem isFirstEmpty_iff {position : Nat} :
    IsFirstEmpty parts position ↔ parts.findIdx? (· == "") = some position := by
  rw [List.findIdx?_eq_some_iff_getElem]
  constructor
  · rintro ⟨empty, first⟩
    obtain ⟨within, isEmpty⟩ := List.getElem?_eq_some_iff.1 empty
    refine ⟨within, beq_iff_eq.2 isEmpty, ?_⟩
    intro earlier before isEmpty
    exact first earlier before (List.getElem?_eq_some_iff.2 ⟨_, beq_iff_eq.1 isEmpty⟩)
  · rintro ⟨within, isEmpty, first⟩
    refine ⟨List.getElem?_eq_some_iff.2 ⟨within, beq_iff_eq.1 isEmpty⟩, ?_⟩
    intro earlier before empty
    obtain ⟨_, isEmpty⟩ := List.getElem?_eq_some_iff.1 empty
    exact first earlier before (beq_iff_eq.2 isEmpty)

/-- Pieces have no separators in them, and so no fault but to be empty. -/
theorem firstFault_of_separatorFree (index : Nat)
    (separatorFree : ∀ part ∈ parts, '#' ∉ part.toList) :
    firstFault index parts =
      (parts.findIdx? (· == "")).map fun position => .emptyComponent (index + position) := by
  induction parts generalizing index with
  | nil => rfl
  | cons part parts ih =>
      obtain ⟨first, others⟩ := List.forall_mem_cons.1 separatorFree
      rw [firstFault, List.findIdx?_cons, if_neg first, ih _ others]
      by_cases empty : part = ""
      · rw [if_pos empty, if_pos (beq_iff_eq.2 empty)]
        rfl
      · rw [if_neg empty, if_neg fun same => empty (beq_iff_eq.1 same), Option.map_map]
        congr 1
        funext position
        rw [Function.comp, Nat.add_assoc, Nat.add_comm 1]

theorem encode_eq_error_iff (isMade : IsMadeOf text parts) :
    encode parts = .error fault ↔
      ∃ position, IsFirstEmpty parts position ∧ fault = .emptyComponent position := by
  have faulty : encode parts = .error fault ↔ firstFault 0 parts = some fault := by
    rw [encode, dif_neg isMade.nonempty]
    split
    next found => simp [found]
    next faultless => simp [faultless]
  rw [faulty, firstFault_of_separatorFree 0 isMade.separatorFree, Option.map_eq_some_iff]
  simp only [isFirstEmpty_iff, Nat.zero_add, eq_comm (a := fault)]

theorem decode_eq_error_iff :
    decode text arity = .error fault ↔
      ∃ parts, IsMadeOf text parts ∧
        ((parts.length ≠ arity ∧ fault = .arity text arity parts.length) ∨
          (parts.length = arity ∧
            ∃ position, IsFirstEmpty parts position ∧ fault = .emptyComponent position)) := by
  simp only [isMadeOf_iff, exists_eq_left', decode]
  by_cases same : (pieces text).length = arity
  · rw [if_neg (not_not_intro same), encode_eq_error_iff (isMadeOf_pieces text)]
    simp only [same, ne_eq, not_true_eq_false, false_and, false_or, true_and]
  · rw [if_pos same, Except.error.injEq]
    simp only [same, ne_eq, not_false_eq_true, true_and, false_and, or_false, eq_comm]

/-- A text has as many pieces as it has, so that reading it fails for an empty one only. -/
theorem parse_eq_error_iff :
    parse text = .error fault ↔
      ∃ parts, IsMadeOf text parts ∧
        ∃ position, IsFirstEmpty parts position ∧ fault = .emptyComponent position := by
  rw [parse, decode_eq_error_iff]
  simp only [isMadeOf_iff, exists_eq_left', ne_eq, not_true_eq_false, false_and, false_or,
    true_and]

/-! ## The correspondence -/

/-- Encoding and decoding are inverse to each other, between the component lists that can be
encoded and the texts of which no piece is empty; other texts fail for the number of their
pieces, if another one is expected, and else for the first piece that is empty. -/
theorem codec_bijects :
    (∀ text, ∃! parts, IsMadeOf text parts) ∧
    (∀ parts, (∃ id, encode parts = .ok id) ↔ ValidParts parts) ∧
    (∀ text arity, (∃ id, decode text arity = .ok id) ↔
      ∃ parts, ValidParts parts ∧ parts.length = arity ∧ "#".intercalate parts = text) ∧
    (∀ parts id, encode parts = .ok id →
      id.parts = parts ∧ decode id.encoded parts.length = .ok id ∧
        parse id.encoded = .ok id) ∧
    (∀ text arity id, decode text arity = .ok id →
      id.encoded = text ∧ id.arity = arity ∧ encode id.parts = .ok id) ∧
    (∀ text id, parse text = .ok id → id.encoded = text ∧ encode id.parts = .ok id) ∧
    (∀ parts others, ValidParts parts → ValidParts others →
      "#".intercalate parts = "#".intercalate others → parts = others) ∧
    (∀ text arity fault, decode text arity = .error fault ↔
      ∃ parts, IsMadeOf text parts ∧
        ((parts.length ≠ arity ∧ fault = .arity text arity parts.length) ∨
          (parts.length = arity ∧
            ∃ position, IsFirstEmpty parts position ∧ fault = .emptyComponent position))) ∧
    (∀ text fault, parse text = .error fault ↔
      ∃ parts, IsMadeOf text parts ∧
        ∃ position, IsFirstEmpty parts position ∧ fault = .emptyComponent position) := by
  refine ⟨?_, fun _ => encode_succeeds_iff, fun _ _ => decode_succeeds_iff, ?_, ?_, ?_, ?_,
    fun _ _ _ => decode_eq_error_iff, fun _ _ => parse_eq_error_iff⟩
  · intro text
    refine ⟨pieces text, isMadeOf_pieces text, ?_⟩
    intro parts isMade
    exact (isMadeOf_iff.1 isMade).symm
  · intro parts id encoded
    obtain rfl := encode_eq_ok_iff.1 encoded
    exact ⟨rfl, decode_eq_ok_iff.2 ⟨rfl, rfl⟩, parse_eq_ok_iff.2 rfl⟩
  · intro text arity id decoded
    obtain ⟨spelt, same⟩ := decode_eq_ok_iff.1 decoded
    exact ⟨spelt, same, encode_eq_ok_iff.2 rfl⟩
  · intro text id parsed
    exact ⟨parse_eq_ok_iff.1 parsed, encode_eq_ok_iff.2 rfl⟩
  · intro parts others valid otherValid same
    have isMade := same ▸ valid.isMadeOf
    exact (isMadeOf_iff.1 isMade).symm.trans (isMadeOf_iff.1 otherValid.isMadeOf)

end ControlLoop.Identifier
