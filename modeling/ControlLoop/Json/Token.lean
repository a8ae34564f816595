import ControlLoop.Json.Number

/-!
# Tokens of JSON text

`Token.scan` cuts a text into tokens with one pass over its characters.  Escapes
in strings are resolved here; a string with an unpaired surrogate escape is well
formed but has no content.
-/

namespace ControlLoop.Json

/-- A token of JSON text. -/
inductive Token where
  | openArray
  | closeArray
  | openObject
  | closeObject
  | comma
  | colon
  | null
  | bool (value : Bool)
  | number (literal : String) (numeral : Numeral)
  /-- A string; its content is absent when a surrogate escape has no partner. -/
  | string (content : Option String)

namespace Token

/-- A piece of a string literal: a character, or the code unit of an escape. -/
inductive Piece where
  | char (value : Char)
  | unit (code : Nat)

/-- The characters of a string literal: a high surrogate must be followed by a
low one, and a low one must not come first. -/
def content? : List Piece → Option (List Char)
  | [] => some []
  | .char c :: rest => (content? rest).map (c :: ·)
  | .unit high :: .unit low :: rest =>
      if 0xd800 ≤ high && high < 0xdc00 then
        if 0xdc00 ≤ low && low < 0xe000 then
          let code := 0x10000 + (high - 0xd800) * 0x400 + (low - 0xdc00)
          (content? rest).map (Char.ofNat code :: ·)
        else none
      else if 0xdc00 ≤ high && high < 0xe000 then none
      else (content? (.unit low :: rest)).map (Char.ofNat high :: ·)
  | .unit code :: rest =>
      if 0xd800 ≤ code && code < 0xe000 then none
      else (content? rest).map (Char.ofNat code :: ·)

/-- What the scanner is in the middle of; pieces are held last first. -/
inductive Scan where
  /-- Between tokens. -/
  | between
  /-- Inside a string. -/
  | text (pieces : List Piece)
  /-- After a backslash inside a string. -/
  | escape (pieces : List Piece)
  /-- Inside a numeric escape: digits still to come, and the code so far. -/
  | code (pieces : List Piece) (missing : Nat) (value : Nat)
  /-- Inside a number, its characters last first. -/
  | number (characters : List Char)
  /-- Inside a word, its letters last first. -/
  | word (letters : List Char)

/-- Whether a character can occur in a number literal. -/
def isNumeric (c : Char) : Bool :=
  c.isDigit || c == '-' || c == '+' || c == '.' || c == 'e' || c == 'E'

/-- The token of a finished word. -/
def ofWord? (letters : List Char) : Option Token :=
  if letters == ['n', 'u', 'l', 'l'] then some .null
  else if letters == ['t', 'r', 'u', 'e'] then some (.bool true)
  else if letters == ['f', 'a', 'l', 's', 'e'] then some (.bool false)
  else none

/-- The token of a finished number. -/
def ofNumber? (characters : List Char) : Option Token :=
  (Numeral.ofText? characters).map (.number (String.ofList characters))

/-- The character that an escape letter stands for. -/
def escaped? (c : Char) : Option Char :=
  match c with
  | '"' => some '"'
  | '\\' => some '\\'
  | '/' => some '/'
  | 'b' => some '\x08'
  | 'f' => some '\x0c'
  | 'n' => some '\n'
  | 'r' => some '\r'
  | 't' => some '\t'
  | _ => none

/-- Start at a character between tokens: the tokens it completes, and what it
begins. -/
def start? (c : Char) : Option (List Token × Scan) :=
  match c with
  | '[' => some ([.openArray], .between)
  | ']' => some ([.closeArray], .between)
  | '\x7b' => some ([.openObject], .between)
  | '\x7d' => some ([.closeObject], .between)
  | ',' => some ([.comma], .between)
  | ':' => some ([.colon], .between)
  | '"' => some ([], .text [])
  | ' ' => some ([], .between)
  | '\t' => some ([], .between)
  | '\n' => some ([], .between)
  | '\r' => some ([], .between)
  | c =>
      if c == '-' || c.isDigit then some ([], .number [c])
      else if c.isLower then some ([], .word [c])
      else none

/-- Finish what the scanner is in the middle of, where a token may end. -/
def finish? : Scan → Option (List Token)
  | .between => some []
  | .number characters => (ofNumber? characters.reverse).map ([·])
  | .word letters => (ofWord? letters.reverse).map ([·])
  | _ => none

/-- Take one character in: the tokens it completes, and the scanner after it. -/
def step? (c : Char) : Scan → Option (List Token × Scan)
  | .between => start? c
  | .text pieces =>
      if c == '"' then
        some ([.string ((content? pieces.reverse).map String.ofList)], .between)
      else if c == '\\' then some ([], .escape pieces)
      else if c.toNat < 0x20 then none
      else some ([], .text (.char c :: pieces))
  | .escape pieces =>
      if c == 'u' then some ([], .code pieces 4 0)
      else (escaped? c).map fun meant => ([], .text (.char meant :: pieces))
  | .code pieces missing value =>
      (Text.hexValue? c).map fun digit =>
        let value := 16 * value + digit
        if missing ≤ 1 then ([], .text (.unit value :: pieces))
        else ([], .code pieces (missing - 1) value)
  | .number characters =>
      if isNumeric c then some ([], .number (c :: characters))
      else (ofNumber? characters.reverse).bind fun token =>
        (start? c).map fun (tokens, scan) => (token :: tokens, scan)
  | .word letters =>
      if c.isLower then some ([], .word (c :: letters))
      else (ofWord? letters.reverse).bind fun token =>
        (start? c).map fun (tokens, scan) => (token :: tokens, scan)

/-- The tokens of the rest of a text. -/
def scanFrom (scan : Scan) : List Char → Option (List Token)
  | [] => finish? scan
  | c :: rest =>
      match step? c scan with
      | none => none
      | some (tokens, scan) => (scanFrom scan rest).map (tokens ++ ·)

/-- The tokens of a text; none when it has a part that is no token. -/
def scan (text : String) : Option (List Token) :=
  scanFrom .between text.toList

end Token

end ControlLoop.Json
