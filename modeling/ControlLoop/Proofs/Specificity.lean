import ControlLoop.Classifier
import Mathlib.Data.List.Basic

/-!
# The most specific rule

A rule covers a code that is its own or goes on behind it with a dot.  A look-up walks from
a code to ever shorter stems, each cut off before the last dot of the one before it.  So it
comes to all rules that cover the code and to no others, and to the longest of them first.

Main statement: `Classifier.classify_mostSpecific`.
-/

namespace ControlLoop.Classifier

/-! ## Cuts -/

/-- A code is cut before its last dot. -/
def IsCut (code shorter : String) : Prop :=
  ∃ rest, '.' ∉ rest ∧ code.toList = shorter.toList ++ '.' :: rest

/-- A stem covers a code: it is the code, or the code goes on behind it with a dot. -/
def Covers (stem code : String) : Prop :=
  code = stem ∨ stem.toList ++ ['.'] <+: code.toList

variable {code shorter stem : String}

theorem exists_isCut (dotted : '.' ∈ code.toList) : ∃ shorter, IsCut code shorter := by
  -- the last dot is the first one from the other end
  obtain ⟨rest, stem, split, dotless⟩ :=
    List.eq_append_cons_of_mem (List.mem_reverse.2 dotted)
  refine ⟨String.ofList stem.reverse, rest.reverse, by simpa using dotless, ?_⟩
  rw [String.toList_ofList, ← List.reverse_reverse code.toList, split]
  simp

theorem IsCut.length_lt (cut : IsCut code shorter) : shorter.length < code.length := by
  obtain ⟨rest, -, split⟩ := cut
  rw [← String.length_toList, ← String.length_toList, split]
  simp

/-- What holds of the codes without dots, and of a code if it holds of what is left when it
is cut, holds of all codes. -/
theorem cutInduction {motive : String → Prop}
    (dotless : ∀ code, '.' ∉ code.toList → motive code)
    (cut : ∀ code shorter, IsCut code shorter → motive shorter → motive code)
    (code : String) : motive code := by
  by_cases dotted : '.' ∈ code.toList
  · obtain ⟨shorter, isCut⟩ := exists_isCut dotted
    have shortens := isCut.length_lt
    exact cut code shorter isCut (cutInduction dotless cut shorter)
  · exact dotless code dotted
termination_by code.length

/-! ## Covering -/

theorem Covers.refl (code : String) : Covers code code :=
  .inl rfl

theorem Covers.eq_or_length_lt (covers : Covers stem code) :
    stem = code ∨ stem.length < code.length := by
  rcases covers with same | goesOn
  · exact .inl same.symm
  · have longer := goesOn.length_le
    rw [List.length_append, String.length_toList, String.length_toList] at longer
    exact .inr longer

theorem Covers.length_le (covers : Covers stem code) : stem.length ≤ code.length := by
  rcases covers.eq_or_length_lt with rfl | shorter
  · exact Nat.le_refl _
  · exact Nat.le_of_lt shorter

theorem covers_iff_of_dotless (dotless : '.' ∉ code.toList) :
    Covers stem code ↔ stem = code := by
  constructor
  · rintro (rfl | goesOn)
    · rfl
    · have dotted : '.' ∈ stem.toList ++ ['.'] := by simp
      exact absurd (goesOn.subset dotted) dotless
  · rintro rfl
    exact .refl stem

/-- What goes on with a dot does so before the last dot or at it. -/
theorem prefix_append_dot_iff {chars start rest : List Char} (dotless : '.' ∉ rest) :
    chars ++ ['.'] <+: start ++ '.' :: rest ↔ start = chars ∨ chars ++ ['.'] <+: start := by
  have upToDot : start ++ ['.'] <+: start ++ '.' :: rest := ⟨rest, by simp⟩
  constructor
  · intro goesOn
    rcases Nat.le_total chars.length start.length with short | long
    · have within : chars ++ ['.'] <+: start ++ ['.'] :=
        List.prefix_of_prefix_length_le goesOn upToDot (by simpa using short)
      rcases List.prefix_concat_iff.1 within with same | before
      · exact .inl (List.append_cancel_right same).symm
      · exact .inr before
    · have within : start ++ ['.'] <+: chars ++ ['.'] :=
        List.prefix_of_prefix_length_le upToDot goesOn (by simpa using long)
      rcases List.prefix_concat_iff.1 within with same | ⟨more, rfl⟩
      · exact .inl (List.append_cancel_right same)
      · -- a dot behind the last one
        have dotted : more ++ ['.'] <+: rest := by simpa using goesOn
        exact absurd (dotted.subset (by simp)) dotless
  · rintro (rfl | before)
    · exact upToDot
    · exact before.trans (List.prefix_append _ _)

/-- What covers a code is the code, or covers what is left when it is cut. -/
theorem IsCut.covers_iff (cut : IsCut code shorter) :
    Covers stem code ↔ stem = code ∨ Covers stem shorter := by
  obtain ⟨rest, dotless, split⟩ := cut
  rw [Covers, Covers, split, prefix_append_dot_iff dotless, String.toList_inj, eq_comm]

/-! ## Stems -/

theorem stems_of_dotless (dotless : '.' ∉ code.toList) : stems code = [code] := by
  simp [stems, List.splitOn_eq_singleton dotless]

theorem intercalate_pieces (code : String) :
    ".".intercalate ((code.toList.splitOn '.').map String.ofList) = code := by
  have dot : ".".toList = ['.'] := rfl
  rw [← String.toList_inj, String.toList_intercalate, dot, List.map_map]
  simp [Function.comp_def, List.intercalate_splitOn]

/-- The stems of a code are the code and the stems of what is left when it is cut. -/
theorem IsCut.stems_eq (cut : IsCut code shorter) : stems code = code :: stems shorter := by
  obtain ⟨rest, dotless, split⟩ := cut
  have pieces : (code.toList.splitOn '.').map String.ofList =
      (shorter.toList.splitOn '.').map String.ofList ++ [String.ofList rest] := by
    rw [split, List.splitOn_append_cons_self, List.splitOn_eq_singleton dotless, List.map_append]
    rfl
  have whole := intercalate_pieces code
  simp only [stems, pieces, List.length_append, List.length_singleton, List.range_succ,
    List.reverse_concat, List.map_cons] at whole ⊢
  congr 1
  · rw [List.take_of_length_le (by simp), whole]
  · apply List.map_congr_left
    intro last member
    rw [List.mem_reverse, List.mem_range] at member
    rw [List.take_append_of_le_length member]

theorem exists_stems_eq_cons (code : String) : ∃ shorter, stems code = code :: shorter := by
  induction code using cutInduction with
  | dotless code dotless => exact ⟨[], stems_of_dotless dotless⟩
  | cut code shorter cut _ => exact ⟨stems shorter, cut.stems_eq⟩

/-- The stems of a code are what covers it. -/
theorem mem_stems_iff : stem ∈ stems code ↔ Covers stem code := by
  induction code using cutInduction with
  | dotless code dotless =>
      rw [stems_of_dotless dotless, List.mem_singleton, covers_iff_of_dotless dotless]
  | cut code shorter cut ih => rw [cut.stems_eq, List.mem_cons, ih, cut.covers_iff]

/-- Each stem is what is left when the one before it is cut. -/
theorem isChain_stems (code : String) : (stems code).IsChain IsCut := by
  induction code using cutInduction with
  | dotless code dotless =>
      rw [stems_of_dotless dotless]
      exact .singleton code
  | cut code shorter cut ih =>
      obtain ⟨others, stemsOfShorter⟩ := exists_stems_eq_cons shorter
      rw [cut.stems_eq, stemsOfShorter]
      rw [stemsOfShorter] at ih
      exact .cons_cons cut ih

/-- There is one stem more than there are dots. -/
theorem length_stems (code : String) : (stems code).length = code.toList.count '.' + 1 := by
  induction code using cutInduction with
  | dotless code dotless =>
      rw [stems_of_dotless dotless, List.count_eq_zero.2 dotless]
      rfl
  | cut code shorter cut ih =>
      rw [cut.stems_eq, List.length_cons, ih]
      obtain ⟨rest, dotless, split⟩ := cut
      simp [split, List.count_eq_zero.2 dotless]

example : stems "A..B" = ["A..B", "A.", "A"] ∧ stems "." = [".", ""] ∧ stems "" = [""] := by
  decide +kernel

/-! ## Look-ups -/

/-- A rule covers a code and is the longest one that does. -/
structure MostSpecific (rule? : String → Option Verdict) (code stem : String)
    (verdict : Verdict) : Prop where
  rules : rule? stem = some verdict
  covers : Covers stem code
  longest : ∀ other, rule? other ≠ none → Covers other code → other.length ≤ stem.length

variable {classifier : Classifier} {rule? : String → Option Verdict} {verdict : Verdict}

/-- A code's own rule is the most specific one. -/
theorem mostSpecific_iff_of_rule {held : Verdict} (own : rule? code = some held) :
    MostSpecific rule? code stem verdict ↔ stem = code ∧ held = verdict := by
  constructor
  · rintro ⟨rules, covers, longest⟩
    have asLong : code.length ≤ stem.length := longest code (by simp [own]) (.refl code)
    obtain rfl := covers.eq_or_length_lt.resolve_right (Nat.not_lt.2 asLong)
    exact ⟨rfl, Option.some.inj (own.symm.trans rules)⟩
  · rintro ⟨rfl, rfl⟩
    exact ⟨own, .refl stem, fun _ _ covers => covers.length_le⟩

/-- Without a rule of its own, a code has the most specific rule of what is left when it is
cut. -/
theorem IsCut.mostSpecific_iff (cut : IsCut code shorter) (unruled : rule? code = none) :
    MostSpecific rule? code stem verdict ↔ MostSpecific rule? shorter stem verdict := by
  have covers_iff {other : String} (ruled : rule? other ≠ none) :
      Covers other code ↔ Covers other shorter := by
    rw [cut.covers_iff, or_iff_right]
    rintro rfl
    exact ruled unruled
  constructor
  · rintro ⟨rules, covers, longest⟩
    refine ⟨rules, (covers_iff (by simp [rules])).1 covers, fun other ruled covers => ?_⟩
    exact longest other ruled ((covers_iff ruled).2 covers)
  · rintro ⟨rules, covers, longest⟩
    refine ⟨rules, (covers_iff (by simp [rules])).2 covers, fun other ruled covers => ?_⟩
    exact longest other ruled ((covers_iff ruled).1 covers)

/-- A code without a rule of its own is looked up as what is left when it is cut. -/
theorem IsCut.lookup?_eq (cut : IsCut code shorter) :
    classifier.lookup? code =
      (classifier.rules.get? code).or (classifier.lookup? shorter) := by
  rw [lookup?, cut.stems_eq, List.findSome?_cons]
  cases classifier.rules.get? code <;> rfl

theorem lookup?_eq_none_iff :
    classifier.lookup? code = none ↔
      ∀ stem, Covers stem code → classifier.rules.get? stem = none := by
  simp only [lookup?, List.findSome?_eq_none_iff, mem_stems_iff]

theorem lookup?_eq_some_iff :
    classifier.lookup? code = some verdict ↔
      ∃ stem, MostSpecific classifier.rules.get? code stem verdict := by
  -- the walk goes from the code to what is left when it is cut
  induction code using cutInduction with
  | dotless code dotless =>
      have alone : classifier.lookup? code = classifier.rules.get? code := by
        simp [lookup?, stems_of_dotless dotless]
      rw [alone]
      cases own : classifier.rules.get? code with
      | some held => simp [mostSpecific_iff_of_rule own]
      | none =>
          simp only [reduceCtorEq, false_iff, not_exists]
          rintro stem ⟨rules, covers, -⟩
          rw [covers_iff_of_dotless dotless] at covers
          rw [covers, own] at rules
          cases rules
  | cut code shorter cut ih =>
      rw [cut.lookup?_eq]
      cases own : classifier.rules.get? code with
      | some held => simp [mostSpecific_iff_of_rule own]
      | none => simp only [Option.none_or, ih, cut.mostSpecific_iff own]

/-! ## Tables -/

/-- A table to which rules were added, one after another. -/
def extended (base : Classifier) (rules : List (String × Verdict)) : Classifier :=
  rules.foldl (fun classifier rule => classifier.withRule rule.1 rule.2) base

/-- The rule for a code in a table to which rules were added: the last one added, or else
the one that the table had. -/
def latest? (base : Classifier) (rules : List (String × Verdict)) (code : String) :
    Option Verdict :=
  (KeyMap.lookup code rules.reverse).or (base.rules.get? code)

theorem get?_extended (base : Classifier) (rules : List (String × Verdict)) (code : String) :
    (base.extended rules).rules.get? code = base.latest? rules code := by
  have folds : (base.extended rules).rules =
      rules.foldl (fun map rule => map.insert rule.1 rule.2) base.rules := by
    rw [extended]
    induction rules generalizing base with
    | nil => rfl
    | cons rule rules ih => exact ih (base.withRule rule.1 rule.2)
  rw [folds, KeyMap.get?_foldl_insert]
  rfl

/-- An error code gets the verdict of the longest rule that covers it, and that of the kind
of operation if none does.  Of several rules for one code the last counts.  The look-up ends:
it tries one stem more than the code has dots, which are all that cover the code. -/
theorem classify_mostSpecific (base : Classifier) (rules : List (String × Verdict))
    (code message : String) (requestId : Option String) (kind : OperationKind) :
    (∀ stem verdict, MostSpecific (base.latest? rules) code stem verdict →
      (base.extended rules).classify (.api code message requestId) kind = verdict) ∧
    ((∀ stem, Covers stem code → base.latest? rules stem = none) →
      (base.extended rules).classify (.api code message requestId) kind = fallback kind) ∧
    ((base.extended rules).lookup? code = none ↔
      ∀ stem, Covers stem code → base.latest? rules stem = none) ∧
    (∀ verdict, (base.extended rules).lookup? code = some verdict ↔
      ∃ stem, MostSpecific (base.latest? rules) code stem verdict) ∧
    (stems code).IsChain IsCut ∧ (stems code).length = code.toList.count '.' + 1 ∧
    ∀ stem, stem ∈ stems code ↔ Covers stem code := by
  have table : (base.extended rules).rules.get? = base.latest? rules :=
    funext (get?_extended base rules)
  have found (verdict : Verdict) : (base.extended rules).lookup? code = some verdict ↔
      ∃ stem, MostSpecific (base.latest? rules) code stem verdict := by
    rw [lookup?_eq_some_iff, table]
  have unruled : (base.extended rules).lookup? code = none ↔
      ∀ stem, Covers stem code → base.latest? rules stem = none := by
    rw [lookup?_eq_none_iff, table]
  refine ⟨fun stem verdict specific => ?_, fun none => ?_, unruled, found, isChain_stems code,
    length_stems code, fun _ => mem_stems_iff⟩
  · rw [classify, (found verdict).2 ⟨stem, specific⟩]
    rfl
  · rw [classify, unruled.2 none]
    rfl

end ControlLoop.Classifier
