/-!
# Blanks and trimming

Trimming removes the characters of Unicode's `White_Space` property from both ends of a text. The
information separators U+001C to U+001F are no blanks, but words end at them as well.

## Main definitions

* `isBlank`: the 25 characters of the property
* `isGap`: those and the information separators
* `trim`: a text without the blanks at its ends
-/

namespace CauseTrail.Text

/-- The characters of Unicode's `White_Space` property. -/
def blanks : List Char :=
  ['\t', '\n', '\x0b', '\x0c', '\r', ' ', '\u0085', '\u00a0', '\u1680', '\u2000', '\u2001',
    '\u2002', '\u2003', '\u2004', '\u2005', '\u2006', '\u2007', '\u2008', '\u2009', '\u200a',
    '\u2028', '\u2029', '\u202f', '\u205f', '\u3000']

/-- Whether trimming removes the character. -/
def isBlank (c : Char) : Bool := blanks.contains c

example : blanks.length = 25 := rfl

/-- Whether a character stands between words. -/
def isGap (c : Char) : Bool := isBlank c || [0x1c, 0x1d, 0x1e, 0x1f].contains c.toNat

/-- A text without the blanks at its end. -/
def trimRight (cs : List Char) : List Char := (cs.reverse.dropWhile isBlank).reverse

/-- A text without the blanks at its two ends. -/
def trim (cs : List Char) : List Char := trimRight (cs.dropWhile isBlank)

@[simp] theorem trimRight_nil : trimRight [] = [] := rfl

@[simp] theorem trim_nil : trim [] = [] := rfl

end CauseTrail.Text
