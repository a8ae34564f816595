import ControlLoop.Text.Blank
import ControlLoop.Text.Digits
import ControlLoop.Json.Basic

/-!
# Points in time

A `Timestamp` is a date and a time of day in UTC, to the nanosecond; second 60 is
a leap second.  Its text is a date, `T`, a time with the shortest exact fraction
of 0, 3, 6 or 9 digits, and `Z`.  When read, blanks may stand before every part, a
blank may replace `T`, and an offset from UTC may replace `Z`.
-/

namespace ControlLoop

/-- A point in time, in UTC. -/
structure Timestamp where
  year : Int
  month : Nat
  day : Nat
  hour : Nat
  minute : Nat
  second : Nat
  nanosecond : Nat
  deriving DecidableEq, Repr

namespace Timestamp

/-! ## Calendar -/

/-- The first year that can be held. -/
def firstYear : Int := -262143

/-- The last year that can be held. -/
def lastYear : Int := 262142

/-- Whether a year has 366 days. -/
def isLeapYear (year : Int) : Bool :=
  year % 4 == 0 && (year % 100 != 0 || year % 400 == 0)

/-- The number of days in a month. -/
def daysIn (year : Int) (month : Nat) : Nat :=
  if month == 2 then if isLeapYear year then 29 else 28
  else if month == 4 || month == 6 || month == 9 || month == 11 then 30
  else 31

/-- Whether the parts make a date and a time of day. -/
def isValid (time : Timestamp) : Bool :=
  firstYear ≤ time.year && time.year ≤ lastYear &&
    1 ≤ time.month && time.month ≤ 12 &&
    1 ≤ time.day && time.day ≤ daysIn time.year time.month &&
    time.hour < 24 && time.minute < 60 && time.second ≤ 60 &&
    time.nanosecond < 1000000000

/-- The same time on the next day. -/
def nextDay (time : Timestamp) : Timestamp :=
  if time.day < daysIn time.year time.month then { time with day := time.day + 1 }
  else if time.month < 12 then { time with month := time.month + 1, day := 1 }
  else { time with year := time.year + 1, month := 1, day := 1 }

/-- The same time on the day before. -/
def previousDay (time : Timestamp) : Timestamp :=
  if 1 < time.day then { time with day := time.day - 1 }
  else if 1 < time.month then
    { time with month := time.month - 1, day := daysIn time.year (time.month - 1) }
  else { time with year := time.year - 1, month := 12, day := 31 }

/-- Turn a local time into UTC, given its offset from UTC in minutes, which must be
less than a day. -/
def toUtc (time : Timestamp) (offset : Int) : Timestamp :=
  let minutes : Int := time.hour * 60 + time.minute - offset
  let moved :=
    if minutes < 0 then previousDay time
    else if 1440 ≤ minutes then nextDay time
    else time
  let ofDay := (minutes % 1440).toNat
  { moved with hour := ofDay / 60, minute := ofDay % 60 }

/-! ## Text -/

/-- A year: four digits, or a sign and at least four digits outside 0 to 9999. -/
def yearText (year : Int) : String :=
  if 0 ≤ year && year ≤ 9999 then Text.padded 4 year.toNat
  else (if year < 0 then "-" else "+") ++ Text.padded 4 year.natAbs

/-- The fraction of a second, in the fewest of 0, 3, 6 or 9 digits. -/
def fractionText (nanosecond : Nat) : String :=
  if nanosecond == 0 then ""
  else if nanosecond % 1000000 == 0 then "." ++ Text.padded 3 (nanosecond / 1000000)
  else if nanosecond % 1000 == 0 then "." ++ Text.padded 6 (nanosecond / 1000)
  else "." ++ Text.padded 9 nanosecond

/-- The time as text. -/
def text (time : Timestamp) : String :=
  yearText time.year ++ "-" ++ Text.padded 2 time.month ++ "-" ++
    Text.padded 2 time.day ++ "T" ++ Text.padded 2 time.hour ++ ":" ++
    Text.padded 2 time.minute ++ ":" ++ Text.padded 2 time.second ++
    fractionText time.nanosecond ++ "Z"

/-! ## Reading -/

/-- Read up to `width` digits. -/
def digits? (width : Nat) (text : List Char) : Option (Nat × List Char) :=
  let digits := (text.take width).takeWhile Char.isDigit
  (Text.decimal? digits).map fun value => (value, text.drop digits.length)

/-- Read blanks and up to `width` digits. -/
def number? (width : Nat) (text : List Char) : Option (Nat × List Char) :=
  digits? width (Text.trimStart text)

/-- Read blanks and a year: up to four digits, or a sign and any number of them. -/
def year? (text : List Char) : Option (Int × List Char) :=
  match Text.trimStart text with
  | '-' :: rest => (digits? rest.length rest).map fun (value, rest) => (-value, rest)
  | '+' :: rest => (digits? rest.length rest).map fun (value, rest) => (value, rest)
  | text => (digits? 4 text).map fun (value, rest) => (value, rest)

/-- Read blanks and a fixed character. -/
def mark? (mark : Char) (text : List Char) : Option (List Char) :=
  match Text.trimStart text with
  | c :: rest => if c == mark then some rest else none
  | [] => none

/-- Read an optional fraction of a second; digits beyond the ninth are dropped. -/
def fraction? : List Char → Option (Nat × List Char)
  | '.' :: rest =>
      let digits := rest.takeWhile Char.isDigit
      if digits.isEmpty then none
      else some (Text.decimalValue ((digits.take 9).rightpad 9 '0'), rest.drop digits.length)
  | text => some (0, text)

/-- Read an offset from UTC in minutes: `UTC` or `Z` in either case, or a sign, two
digits of hours and two digits of minutes with colons and blanks between. -/
def offset? (text : List Char) : Option (Int × List Char) :=
  if Text.lower (text.take 3) == ['u', 't', 'c'] then some (0, text.drop 3)
  else match text with
    | [] => none
    | sign :: rest =>
        if sign == 'Z' || sign == 'z' then some (0, rest)
        else if sign == '+' || sign == '-' || sign == '−' then
          match rest with
          | h₁ :: h₂ :: rest =>
              match rest.dropWhile fun c => c == ':' || Text.isBlank c with
              | m₁ :: m₂ :: rest =>
                  if [h₁, h₂, m₁, m₂].all Char.isDigit && m₁ ≤ '5' then
                    let size : Int := Text.decimalValue [h₁, h₂] * 60 +
                      Text.decimalValue [m₁, m₂]
                    if size < 1440 then
                      some (if sign == '+' then size else -size, rest)
                    else none
                  else none
              | _ => none
          | _ => none
        else none

/-- Read a point in time. -/
def ofText? (text : String) : Option Timestamp := do
  let (year, rest) ← year? text.toList
  let rest ← mark? '-' rest
  let (month, rest) ← number? 2 rest
  let rest ← mark? '-' rest
  let (day, rest) ← number? 2 rest
  let rest ← match rest with
    | c :: rest => if c == 'T' || c == 't' || c == ' ' then some rest else none
    | [] => none
  let (hour, rest) ← number? 2 rest
  let rest ← mark? ':' rest
  let (minute, rest) ← number? 2 rest
  let rest ← mark? ':' rest
  let (second, rest) ← number? 2 rest
  let (nanosecond, rest) ← fraction? rest
  let (offset, rest) ← offset? (Text.trimStart rest)
  let time : Timestamp := { year, month, day, hour, minute, second, nanosecond }
  if (Text.trimStart rest).isEmpty && time.isValid && (time.toUtc offset).isValid then
    some (time.toUtc offset)
  else none

/-- Read a point in time from JSON. -/
def ofJson? (json : Json) : Option Timestamp :=
  json.string?.bind ofText?

/-- The point in time as JSON. -/
def toJson (time : Timestamp) : Json :=
  .string time.text

end Timestamp

end ControlLoop
