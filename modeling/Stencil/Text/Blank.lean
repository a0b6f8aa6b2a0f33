/-!
# Blank characters

The characters that count as white space around a raw line or a number: the
Unicode white space characters together with the four ASCII separators
`U+001C` to `U+001F`. Core's `Char.isWhitespace` knows four of them.

`strip` removes them from both ends of a text and from nowhere else.
-/

namespace Stencil.Text

/-- The code points that count as white space, in ascending order. -/
def blankCodes : List Nat :=
  [0x9, 0xA, 0xB, 0xC, 0xD, 0x1C, 0x1D, 0x1E, 0x1F, 0x20, 0x85, 0xA0, 0x1680, 0x2000, 0x2001,
    0x2002, 0x2003, 0x2004, 0x2005, 0x2006, 0x2007, 0x2008, 0x2009, 0x200A, 0x2028, 0x2029,
    0x202F, 0x205F, 0x3000]

/-- Whether a character is white space. -/
def isBlank (c : Char) : Bool := blankCodes.contains c.toNat

/-- Drop the white space at the end of a text. -/
def stripRight (cs : List Char) : List Char := (cs.reverse.dropWhile isBlank).reverse

/-- Drop the white space at both ends of a text. -/
def strip (cs : List Char) : List Char := stripRight (cs.dropWhile isBlank)

/-- Every character that core counts as white space is blank. -/
theorem isBlank_of_isWhitespace (c : Char) (white : c.isWhitespace = true) : isBlank c = true := by
  simp only [Char.isWhitespace, Bool.or_eq_true, decide_eq_true_eq] at white
  rcases white with ((h | h) | h) | h <;> subst h <;> decide

end Stencil.Text
