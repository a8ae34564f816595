import ControlLoop.Text.Blank
import ControlLoop.Text.Digits
import ControlLoop.Json.Basic

/-!
# Correlation identifiers

A `Uuid` is 128 bits, written as 32 hexadecimal digits in groups of 8, 4, 4, 4
and 12 with hyphens between them.  It may be read without hyphens, or with them
and then also between braces or after `urn:uuid:`, whose letter case is free.
-/

namespace ControlLoop

/-- A correlation identifier. -/
structure Uuid where
  bits : BitVec 128
  deriving DecidableEq, Repr

namespace Uuid

/-- The identifier of 32 hexadecimal digits. -/
def ofDigits? (digits : List Char) : Option Uuid :=
  if digits.length = 32 then
    (digits.mapM Text.hexValue?).map fun values =>
      ⟨.ofNat 128 (values.foldl (fun n value => 16 * n + value) 0)⟩
  else none

/-- Cut a list into groups of the given sizes, and what is left over. -/
def groups : List Nat → List Char → List (List Char)
  | [], rest => [rest]
  | size :: sizes, text => text.take size :: groups sizes (text.drop size)

/-- The digits of the hyphenated form. -/
def unhyphenated? (text : List Char) : Option (List Char) :=
  match groups [8, 1, 4, 1, 4, 1, 4, 1] text with
  | [a, ['-'], b, ['-'], c, ['-'], d, ['-'], e] => some (a ++ b ++ c ++ d ++ e)
  | _ => none

/-- Read an identifier. -/
def ofText? (text : String) : Option Uuid :=
  let chars := text.toList
  if chars.length = 32 then ofDigits? chars
  else
    let hyphenated :=
      if chars.length = 38 && chars.head? == some '\x7b' &&
          chars.getLast? == some '\x7d' then
        (chars.drop 1).dropLast
      else if chars.length = 45 && Text.lower (chars.take 9) == "urn:uuid:".toList then
        chars.drop 9
      else chars
    if hyphenated.length = 36 then (unhyphenated? hyphenated).bind ofDigits?
    else none

/-- The hyphenated form. -/
def text (uuid : Uuid) : String :=
  let digits := Nat.toDigits 16 uuid.bits.toNat
  let digits := List.replicate (32 - digits.length) '0' ++ digits
  String.ofList (['-'].intercalate (groups [8, 4, 4, 4] digits))

/-- Read an identifier from JSON. -/
def ofJson? (json : Json) : Option Uuid :=
  json.string?.bind ofText?

/-- The identifier as JSON. -/
def toJson (uuid : Uuid) : Json :=
  .string uuid.text

/-- The message for a text that is no identifier of the given kind, without the
description of the fault. -/
def parseFailure (kind : String) : String :=
  "Failed to parse " ++ kind ++ ": "

end Uuid

end ControlLoop
