import Mathlib.Algebra.Group.Nat.Defs
import ControlLoop.Timestamp

/-!
# Reading back points in time

The text of a point in time is read back as that point in time, for every date and
time of day that can be held.  The parts are read one after another: each reader
stops where the text of its part ends, whatever stands behind it.
-/

namespace ControlLoop

/-! ## Numbers in digits -/

namespace Text

theorem toList_padded (width n : Nat) :
    (padded width n).toList =
      List.replicate (width - (Nat.toDigits 10 n).length) '0' ++ Nat.toDigits 10 n :=
  String.toList_ofList

theorem isDigit_of_mem_padded {width n : Nat} {c : Char}
    (member : c ∈ (padded width n).toList) : c.isDigit = true := by
  rw [toList_padded, List.mem_append] at member
  cases member with
  | inl zero =>
      rw [(List.mem_replicate.1 zero).2]
      rfl
  | inr digit => exact Nat.isDigit_of_mem_toDigits (by decide) (by decide) digit

/-- Zeros at the left do not change the number that digits stand for. -/
theorem decimalValue_padded (width n : Nat) :
    decimalValue (padded width n).toList = n := by
  change Nat.ofDigitChars 10 (padded width n).toList 0 = n
  rw [toList_padded, Nat.ofDigitChars_append, Nat.ofDigitChars_replicate_zero,
    Nat.mul_zero]
  exact Nat.ofDigitChars_ten_toDigits

theorem length_padded {width n : Nat} (someWidth : 0 < width) (fits : n < 10 ^ width) :
    (padded width n).toList.length = width := by
  have short := (Nat.length_toDigits_le_iff (by decide) someWidth).2 fits
  simp only [toList_padded, List.length_append, List.length_replicate]
  omega

/-- A number begins with a digit. -/
theorem padded_eq_cons (width n : Nat) :
    ∃ c rest, (padded width n).toList = c :: rest ∧ c.isDigit = true := by
  cases digits : (padded width n).toList with
  | nil =>
      rw [toList_padded, List.append_eq_nil_iff] at digits
      exact absurd digits.2 Nat.toDigits_ne_nil
  | cons c rest =>
      exact ⟨c, rest, rfl, isDigit_of_mem_padded (digits ▸ List.mem_cons_self)⟩

theorem decimal?_padded (width n : Nat) : decimal? (padded width n).toList = some n := by
  have allDigits : (padded width n).toList.all Char.isDigit = true :=
    List.all_eq_true.2 fun _ => isDigit_of_mem_padded
  have someDigits : (padded width n).toList.isEmpty = false := by
    obtain ⟨c, rest, digits, -⟩ := padded_eq_cons width n
    rw [digits]
    rfl
  simp [decimal?, someDigits, allDigits, decimalValue_padded]

/-- No digit is a blank. -/
theorem isBlank_of_isDigit {c : Char} (digit : c.isDigit = true) : isBlank c = false := by
  have inRange : 48 ≤ c.toNat ∧ c.toNat ≤ 57 := by
    simpa [Char.isDigit, UInt32.le_iff_toNat_le] using digit
  simp [isBlank]
  omega

@[simp] theorem trimStart_cons {c : Char} {rest : List Char} (visible : isBlank c = false) :
    trimStart (c :: rest) = c :: rest := by
  simp [trimStart, visible]

theorem trimStart_padded (width n : Nat) (rest : List Char) :
    trimStart ((padded width n).toList ++ rest) = (padded width n).toList ++ rest := by
  obtain ⟨c, others, digits, digit⟩ := padded_eq_cons width n
  rw [digits]
  exact trimStart_cons (isBlank_of_isDigit digit)

end Text

namespace Timestamp

open Text (padded)

/-! ## The parts of a text -/

/-- A reader of up to `limit` digits takes a whole padded number, if it does not take
a digit behind it. -/
theorem digits?_padded {limit width n : Nat} (rest : List Char)
    (wide : (padded width n).toList.length ≤ limit)
    (stops : (rest.take (limit - (padded width n).toList.length)).takeWhile Char.isDigit
      = []) :
    digits? limit ((padded width n).toList ++ rest) = some (n, rest) := by
  have taken : (((padded width n).toList ++ rest).take limit).takeWhile Char.isDigit =
      (padded width n).toList := by
    rw [List.take_append, List.take_of_length_le wide,
      List.takeWhile_append_of_pos fun _ => Text.isDigit_of_mem_padded, stops,
      List.append_nil]
  simp only [digits?, taken, Text.decimal?_padded, List.drop_left, Option.map_some]

theorem number?_padded (width : Nat) {n : Nat} (rest : List Char) (someWidth : 0 < width)
    (fits : n < 10 ^ width) :
    number? width ((padded width n).toList ++ rest) = some (n, rest) := by
  have long := Text.length_padded someWidth fits
  rw [number?, Text.trimStart_padded]
  exact digits?_padded rest (Nat.le_of_eq long) (by simp [long])

/-- After a sign, all digits up to the dash belong to the year. -/
theorem digits?_signedYear (n : Nat) (rest : List Char) :
    digits? ((padded 4 n).toList ++ '-' :: rest).length
        ((padded 4 n).toList ++ '-' :: rest) =
      some (n, '-' :: rest) := by
  apply digits?_padded ('-' :: rest)
  · simp
  · simp only [List.length_append, Nat.add_sub_cancel_left, List.take_length]
    rfl

/-- A year is read up to the dash behind it, with and without a sign. -/
theorem year?_yearText (year : Int) (rest : List Char) :
    year? ((yearText year).toList ++ '-' :: rest) = some (year, '-' :: rest) := by
  by_cases common : 0 ≤ year ∧ year ≤ 9999
  · have fits : year.toNat < 10 ^ 4 := by omega
    have long := Text.length_padded (by decide) fits
    have read := digits?_padded ('-' :: rest) (Nat.le_of_eq long) (by simp [long])
    have value : (year.toNat : Int) = year := Int.toNat_of_nonneg common.1
    have text : yearText year = padded 4 year.toNat := by simp [yearText, common]
    obtain ⟨c, others, digits, digit⟩ := Text.padded_eq_cons 4 year.toNat
    rw [text, year?, Text.trimStart_padded]
    split
    next first =>
      rw [digits, List.cons_append, List.cons.injEq] at first
      rw [first.1] at digit
      cases digit
    next first =>
      rw [digits, List.cons_append, List.cons.injEq] at first
      rw [first.1] at digit
      cases digit
    next => simp [read, value]
  · by_cases negative : year < 0
    · have text : (yearText year).toList ++ '-' :: rest =
          '-' :: ((padded 4 year.natAbs).toList ++ '-' :: rest) := by
        simp [yearText, common, negative]
      have value : -(year.natAbs : Int) = year := by omega
      rw [text, year?, Text.trimStart_cons rfl]
      simp only [digits?_signedYear, Option.map_some, value]
    · have text : (yearText year).toList ++ '-' :: rest =
          '+' :: ((padded 4 year.natAbs).toList ++ '-' :: rest) := by
        simp [yearText, common, negative]
      have value : (year.natAbs : Int) = year := by omega
      rw [text, year?, Text.trimStart_cons rfl]
      simp only [digits?_signedYear, Option.map_some, value]

theorem mark?_cons {mark : Char} (visible : Text.isBlank mark = false) (rest : List Char) :
    mark? mark (mark :: rest) = some rest := by
  simp [mark?, Text.trimStart_cons visible]

/-- A fraction of so many digits stands for as many nanoseconds as were written. -/
theorem fraction?_padded (width n : Nat) (rest : List Char) (someWidth : 0 < width)
    (atMostNine : width ≤ 9) (fits : n < 10 ^ width) :
    fraction? ('.' :: ((padded width n).toList ++ 'Z' :: rest)) =
      some (n * 10 ^ (9 - width), 'Z' :: rest) := by
  have long := Text.length_padded someWidth fits
  have taken : ((padded width n).toList ++ 'Z' :: rest).takeWhile Char.isDigit =
      (padded width n).toList := by
    rw [List.takeWhile_append_of_pos fun _ => Text.isDigit_of_mem_padded]
    simp
  have someDigits : (padded width n).toList.isEmpty = false := by
    rw [List.isEmpty_eq_false_iff, ← List.length_pos_iff, long]
    exact someWidth
  have value : Text.decimalValue ((padded width n).toList.rightpad 9 '0') =
      n * 10 ^ (9 - width) := by
    change Nat.ofDigitChars 10 ((padded width n).toList.rightpad 9 '0') 0 = _
    rw [List.rightpad, long, Nat.ofDigitChars_append, Nat.ofDigitChars_replicate_zero,
      Nat.mul_comm]
    exact congrArg (· * _) (Text.decimalValue_padded width n)
  simp only [fraction?, taken, someDigits, Bool.false_eq_true, if_false,
    List.take_of_length_le (long ▸ atMostNine), value, List.drop_left]

theorem fraction?_fractionText {nanosecond : Nat} (rest : List Char)
    (fits : nanosecond < 1000000000) :
    fraction? ((fractionText nanosecond).toList ++ 'Z' :: rest) =
      some (nanosecond, 'Z' :: rest) := by
  rw [fractionText]
  split
  next none => simp_all [fraction?]
  next =>
    split
    next millis =>
      have read := fraction?_padded 3 (nanosecond / 1000000) rest (by decide) (by decide) (by omega)
      have whole : nanosecond / 1000000 * 10 ^ (9 - 3) = nanosecond :=
        Nat.div_mul_cancel (Nat.dvd_of_mod_eq_zero (beq_iff_eq.1 millis))
      rw [whole] at read
      simpa using read
    next =>
      split
      next micros =>
        have read := fraction?_padded 6 (nanosecond / 1000) rest (by decide) (by decide) (by omega)
        have whole : nanosecond / 1000 * 10 ^ (9 - 6) = nanosecond :=
          Nat.div_mul_cancel (Nat.dvd_of_mod_eq_zero (beq_iff_eq.1 micros))
        rw [whole] at read
        simpa using read
      next =>
        have read := fraction?_padded 9 nanosecond rest (by decide) (by decide) fits
        simpa using read

/-- A time of day without an offset is in UTC already. -/
theorem toUtc_zero {time : Timestamp} (hour : time.hour < 24) (minute : time.minute < 60) :
    time.toUtc 0 = time := by
  have ofDay : ((time.hour : Int) * 60 + time.minute - 0) % 1440 =
      ((time.hour * 60 + time.minute : Nat) : Int) := by omega
  have early : ¬((time.hour : Int) * 60 + time.minute - 0 < 0) := by omega
  have late : ¬(1440 ≤ (time.hour : Int) * 60 + time.minute - 0) := by omega
  have hours : (time.hour * 60 + time.minute) / 60 = time.hour := by omega
  have minutes : (time.hour * 60 + time.minute) % 60 = time.minute := by omega
  simp only [toUtc, if_neg early, if_neg late, ofDay, Int.toNat_natCast, hours, minutes]

/-! ## The whole text -/

theorem daysIn_lt (year : Int) (month : Nat) : daysIn year month < 32 := by
  unfold daysIn
  repeat' split
  all_goals decide

/-- Every point in time is read back from its text. -/
theorem ofText?_text {time : Timestamp} (valid : time.isValid = true) :
    ofText? time.text = some time := by
  obtain ⟨⟨⟨⟨⟨⟨⟨-, month⟩, -⟩, day⟩, hour⟩, minute⟩, second⟩, nanosecond⟩ := by
    simpa only [isValid, Bool.and_eq_true, decide_eq_true_eq] using valid
  have dayBound := daysIn_lt time.year time.month
  have text : time.text.toList =
      (yearText time.year).toList ++ '-' :: ((padded 2 time.month).toList ++
        '-' :: ((padded 2 time.day).toList ++ 'T' :: ((padded 2 time.hour).toList ++
        ':' :: ((padded 2 time.minute).toList ++ ':' :: ((padded 2 time.second).toList ++
        ((fractionText time.nanosecond).toList ++ ['Z'])))))) := by
    simp [Timestamp.text]
  have two {n : Nat} (fits : n < 10 ^ 2) {rest : List Char} :
      number? 2 ((padded 2 n).toList ++ rest) = some (n, rest) :=
    number?_padded 2 rest (by decide) fits
  have dash {rest : List Char} : mark? '-' ('-' :: rest) = some rest := mark?_cons rfl rest
  have colon {rest : List Char} : mark? ':' (':' :: rest) = some rest := mark?_cons rfl rest
  have separator : ('T' == 'T' || 'T' == 't' || 'T' == ' ') = true := rfl
  rw [ofText?, text]
  -- One step a part, in the order in which the reader meets them.
  refine Option.bind_eq_some_iff.2 ⟨_, year?_yearText time.year _, ?_⟩
  refine Option.bind_eq_some_iff.2 ⟨_, dash, ?_⟩
  refine Option.bind_eq_some_iff.2 ⟨_, two (by omega), ?_⟩
  refine Option.bind_eq_some_iff.2 ⟨_, dash, ?_⟩
  refine Option.bind_eq_some_iff.2 ⟨_, two (by omega), ?_⟩
  dsimp only
  rw [if_pos separator]
  refine Option.bind_eq_some_iff.2 ⟨_, rfl, ?_⟩
  refine Option.bind_eq_some_iff.2 ⟨_, two (by omega), ?_⟩
  refine Option.bind_eq_some_iff.2 ⟨_, colon, ?_⟩
  refine Option.bind_eq_some_iff.2 ⟨_, two (by omega), ?_⟩
  refine Option.bind_eq_some_iff.2 ⟨_, colon, ?_⟩
  refine Option.bind_eq_some_iff.2 ⟨_, two (by omega), ?_⟩
  refine Option.bind_eq_some_iff.2 ⟨_, fraction?_fractionText [] nanosecond, ?_⟩
  refine Option.bind_eq_some_iff.2 ⟨(0, []), rfl, ?_⟩
  change (if (time.isValid && (time.toUtc 0).isValid) = true then some (time.toUtc 0)
    else none) = some time
  rw [toUtc_zero hour minute, valid]
  rfl

end Timestamp

end ControlLoop
