import ControlLoop.KeyMap
import Mathlib.Tactic.SplitIfs

/-!
# The order of texts

Texts are ordered by their code points, and so are the keys of a map.  UTF-8 keeps that
order: it is also the order of the bytes.

Main statement: `Text.bytes_lt_bytes_iff`.
-/

namespace ControlLoop.Text

/-- The bytes of a text in UTF-8. -/
def bytes (text : String) : List UInt8 :=
  text.toUTF8.data.toList

theorem bytes_eq (text : String) :
    bytes text = text.toList.flatMap String.utf8EncodeChar := by
  rw [bytes, String.toUTF8, ← String.utf8Encode_toList]
  simp [List.utf8Encode]

/-- The bytes of a smaller character are smaller, whatever follows: the first byte tells how
many there are, and the rest are the digits of the code point. -/
theorem encoded_lt {char other : Char} (less : char < other) (rest later : List UInt8) :
    String.utf8EncodeChar char ++ rest < String.utf8EncodeChar other ++ later := by
  have digits : char.val.toNat < other.val.toNat := less
  have bound : other.val.toNat < 0x110000 := by
    rcases other.valid with low | high <;> lia
  rw [String.utf8EncodeChar, String.utf8EncodeChar]
  generalize char.val.toNat = left at digits
  generalize other.val.toNat = right at digits bound
  split_ifs <;>
    simp (disch := omega) only [List.cons_append, List.nil_append, List.cons_lt_cons_iff,
      UInt8.lt_iff_toNat_lt, ← UInt8.toNat_inj, UInt8.toNat_ofNat', Nat.mod_eq_of_lt] <;>
    omega

theorem flatMap_encoded_lt {chars others : List Char} (less : chars < others) :
    chars.flatMap String.utf8EncodeChar < others.flatMap String.utf8EncodeChar := by
  induction chars generalizing others with
  | nil =>
      cases others with
      | nil => cases less
      | cons char others =>
          obtain ⟨byte, more, encoded⟩ :=
            List.exists_cons_of_ne_nil (String.utf8EncodeChar_ne_nil (c := char))
          rw [List.flatMap_nil, List.flatMap_cons, encoded]
          exact List.nil_lt_cons _ _
  | cons char chars ih =>
      cases others with
      | nil => cases less
      | cons other others =>
          rw [List.flatMap_cons, List.flatMap_cons]
          rcases List.cons_lt_cons_iff.1 less with before | ⟨rfl, later⟩
          · exact encoded_lt before _ _
          · exact List.append_left_lt (ih later)

theorem bytes_lt_bytes_iff {text other : String} : bytes text < bytes other ↔ text < other := by
  have keeps {text other : String} (less : text < other) : bytes text < bytes other := by
    rw [bytes_eq, bytes_eq]
    exact flatMap_encoded_lt less
  refine ⟨fun less => ?_, keeps⟩
  apply Decidable.byContradiction
  intro notLess
  by_cases greater : other < text
  · exact List.lt_asymm less (keeps greater)
  · exact List.lt_irrefl _ (KeyMap.eq_of_not_lt notLess greater ▸ less)

theorem bytes_le_bytes_iff {text other : String} : bytes text ≤ bytes other ↔ text ≤ other := by
  rw [← List.not_lt, ← String.not_lt, bytes_lt_bytes_iff]

/-- Of texts in increasing order, the first one that passes a test is the least one. -/
theorem find?_eq_some_iff {names : List String} (sorted : names.Pairwise (· < ·))
    {test : String → Bool} {name : String} :
    names.find? test = some name ↔
      name ∈ names ∧ test name = true ∧ ∀ other ∈ names, test other = true → name ≤ other := by
  induction names with
  | nil => simp
  | cons first names ih =>
      obtain ⟨before, sorted⟩ := List.pairwise_cons.1 sorted
      rw [List.find?_cons]
      cases passes : test first with
      | true =>
          rw [Option.some.injEq]
          constructor
          · rintro rfl
            refine ⟨List.mem_cons_self, passes, ?_⟩
            intro other member _
            rcases List.mem_cons.1 member with rfl | later
            · exact String.le_refl _
            · exact String.not_lt.1 (String.lt_asymm (before other later))
          · rintro ⟨member, -, least⟩
            rcases List.mem_cons.1 member with rfl | later
            · rfl
            · exact absurd (before name later) (least first List.mem_cons_self passes)
      | false =>
          have among {name : String} (fits : test name = true) :
              name ∈ first :: names ↔ name ∈ names := by
            rw [List.mem_cons]
            refine or_iff_right ?_
            rintro rfl
            rw [passes] at fits
            cases fits
          refine (ih sorted).trans ?_
          constructor
          · rintro ⟨member, fits, least⟩
            exact ⟨(among fits).2 member, fits, fun other isOther fits =>
              least other ((among fits).1 isOther) fits⟩
          · rintro ⟨member, fits, least⟩
            exact ⟨(among fits).1 member, fits, fun other isOther fits =>
              least other ((among fits).2 isOther) fits⟩

end ControlLoop.Text
