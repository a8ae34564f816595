import ControlLoop.Text.Invisible

/-!
# Quoted text for people

`quoted` puts a string between double quotes so that every character in it can
be told apart: the quote, the backslash and the common control characters are
escaped by name, invisible characters by number, and all others stand as they
are.
-/

namespace ControlLoop.Text

/-- How one character is shown between quotes. -/
def quotedChar (c : Char) : List Char :=
  match c with
  | '\x00' => ['\\', '0']
  | '\t' => ['\\', 't']
  | '\n' => ['\\', 'n']
  | '\r' => ['\\', 'r']
  | '"' => ['\\', '"']
  | '\\' => ['\\', '\\']
  | c =>
      if c.toNat < 0x20 || (0x7f ≤ c.toNat && isInvisible c) then
        ['\\', 'u', '\x7b'] ++ Nat.toDigits 16 c.toNat ++ ['\x7d']
      else [c]

/-- A string between double quotes, with escapes. -/
def quoted (text : String) : String :=
  String.ofList ('"' :: text.toList.flatMap quotedChar ++ ['"'])

end ControlLoop.Text
