import ControlLoop.Text.Digits

/-!
# Lengths of time

Durations count whole nanoseconds.  Their text uses the largest unit of seconds,
milliseconds, microseconds and nanoseconds whose whole part is not zero, followed
by the exact fraction without trailing zeros.
-/

namespace ControlLoop

/-- A length of time in nanoseconds. -/
abbrev Duration : Type := Nat

namespace Duration

/-- Nanoseconds in one second. -/
def perSecond : Nat := 1000000000

/-- A duration of whole seconds. -/
def ofSeconds (seconds : Nat) : Duration :=
  seconds * perSecond

/-- A duration of whole milliseconds. -/
def ofMilliseconds (milliseconds : Nat) : Duration :=
  milliseconds * 1000000

/-- A duration of seconds and nanoseconds. -/
def ofParts (seconds nanoseconds : Nat) : Duration :=
  ofSeconds seconds + nanoseconds

/-- The whole seconds of a duration. -/
def seconds (duration : Duration) : Nat :=
  duration / perSecond

/-- The nanoseconds beyond the whole seconds. -/
def subsecond (duration : Duration) : Nat :=
  duration % perSecond

/-- Digits of a fraction of the given number of places, without trailing zeros
and with the point before them unless none is left. -/
def fraction (places : Nat) (part : Nat) : String :=
  let digits := (Text.padded places part).toList.reverse.dropWhile (· == '0')
  if digits.isEmpty then "" else String.ofList ('.' :: digits.reverse)

/-- A number of units, given as a count of parts of which `10 ^ places` make
one unit. -/
def inUnit (parts places : Nat) (unit : String) : String :=
  let perUnit := Nat.pow 10 places
  toString (parts / perUnit) ++ fraction places (parts % perUnit) ++ unit

/-- The duration as people read it: `1.5s`, `20ms`, `0ns`. -/
def text (duration : Duration) : String :=
  if perSecond ≤ duration then inUnit duration 9 "s"
  else if 1000000 ≤ duration then inUnit duration 6 "ms"
  else if 1000 ≤ duration then inUnit duration 3 "µs"
  else inUnit duration 0 "ns"

end Duration

end ControlLoop
