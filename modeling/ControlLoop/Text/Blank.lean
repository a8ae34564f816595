/-!
# Blank space and letter case

The white space of `trim` is the full `White_Space` property, not only its ASCII
part.  `lower` folds ASCII letters alone: it is used to recognise fixed ASCII
words, and no character outside ASCII folds to a letter sequence of such a word.
-/

namespace ControlLoop.Text

/-- Whether a character has the property `White_Space`. -/
def isBlank (c : Char) : Bool :=
  let n := c.toNat
  (0x9 ≤ n && n ≤ 0xd) || n == 0x20 || n == 0x85 || n == 0xa0 || n == 0x1680 ||
    (0x2000 ≤ n && n ≤ 0x200a) || n == 0x2028 || n == 0x2029 || n == 0x202f ||
    n == 0x205f || n == 0x3000

/-- Remove blanks at the start. -/
def trimStart (text : List Char) : List Char :=
  text.dropWhile isBlank

/-- Remove blanks at both ends. -/
def trim (text : String) : List Char :=
  (trimStart (trimStart text.toList).reverse).reverse

/-- Fold ASCII letters to lower case. -/
def lower (text : List Char) : List Char :=
  text.map Char.toLower

end ControlLoop.Text
