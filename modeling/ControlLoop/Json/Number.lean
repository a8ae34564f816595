import ControlLoop.Text.Digits
import ControlLoop.Json.Basic

/-!
# Number literals

A literal is an optional minus sign, a whole part without superfluous zeros, an
optional fraction and an optional exponent.  It stands for an integer when it has
neither fraction nor exponent, is not `-0` and fits a signed or unsigned 64-bit
word.  Any other literal stands for a double, computed as the double nearest to
its leading digits (as many as fit 64 bits) times the double nearest to a power
of ten; a literal whose double would be infinite is not usable.
-/

namespace ControlLoop.Json

/-- The parts of a number literal. -/
structure Numeral where
  negative : Bool
  /-- Digits before the point. -/
  whole : List Char
  /-- Digits after the point; absent without a point. -/
  fraction : Option (List Char)
  /-- Sign and digits after the exponent mark; absent without one. -/
  exponent : Option (Bool × List Char)

namespace Numeral

/-- Split the leading digits off. -/
def digits (text : List Char) : List Char × List Char :=
  text.span Char.isDigit

/-- Read the part after the whole digits and fraction: nothing, or an exponent. -/
def exponentOf? : List Char → Option (Option (Bool × List Char))
  | [] => some none
  | mark :: rest =>
      if mark == 'e' || mark == 'E' then
        let (negative, rest) :=
          match rest with
          | '-' :: rest => (true, rest)
          | '+' :: rest => (false, rest)
          | rest => (false, rest)
        if rest.isEmpty || !rest.all Char.isDigit then none
        else some (some (negative, rest))
      else none

/-- Read a literal without its sign. -/
def ofUnsigned? (negative : Bool) (text : List Char) : Option Numeral :=
  let (whole, rest) := digits text
  if whole.isEmpty || (whole.head? == some '0' && 1 < whole.length) then none
  else match rest with
    | '.' :: rest =>
        let (fraction, rest) := digits rest
        if fraction.isEmpty then none
        else (exponentOf? rest).map fun exponent =>
          ⟨negative, whole, some fraction, exponent⟩
    | rest => (exponentOf? rest).map fun exponent =>
        ⟨negative, whole, none, exponent⟩

/-- Read a whole literal. -/
def ofText? : List Char → Option Numeral
  | '-' :: rest => ofUnsigned? true rest
  | text => ofUnsigned? false text

/-- Extend a number by digits as long as it stays below `2 ^ 64`; the digits that
no longer fit are left over. -/
def absorb (number : Nat) : List Char → Nat × List Char
  | [] => (number, [])
  | digit :: rest =>
      let extended := 10 * number + Text.digitValue digit
      if extended < UInt64.size then absorb extended rest else (number, digit :: rest)

/-- The nearest number of at most 53 significant bits, ties to even. -/
def nearest53 (n : Nat) : Nat :=
  if n < 1 <<< 53 then n
  else
    let unit := 1 <<< (Nat.log2 n - 52)
    let quotient := n / unit
    let twice := 2 * (n % unit)
    if twice < unit || (twice == unit && quotient % 2 == 0) then quotient * unit
    else (quotient + 1) * unit

/-- Whether the double of the literal is finite. -/
def isFinite (numeral : Numeral) : Bool :=
  let (leading, unusedWhole) := absorb 0 numeral.whole
  let fraction := numeral.fraction.getD []
  let (significand, unusedFraction) := absorb leading fraction
  let shift : Int := match numeral.exponent with
    | none => 0
    | some (negative, digits) =>
        let size : Int := Text.decimalValue digits
        if negative then -size else size
  let exponent : Int :=
    unusedWhole.length - (fraction.length - unusedFraction.length) + shift
  if exponent < 0 || significand == 0 then true
  else if 308 < exponent then false
  else
    nearest53 significand * nearest53 (Nat.pow 10 exponent.toNat) <
      (1 <<< 54 - 1) <<< 970

/-- The integer that the literal stands for, if it stands for one. -/
def integer? (numeral : Numeral) : Option Int :=
  if numeral.fraction.isSome || numeral.exponent.isSome then none
  else
    let size := Text.decimalValue numeral.whole
    if numeral.negative then
      if 0 < size && size ≤ Int64.minValue.toInt.natAbs then some (-size) else none
    else if size < UInt64.size then some size
    else none

end Numeral

end ControlLoop.Json
