import JavaConstants.Unicode.RangeTable
import JavaConstants.Unicode.PrintTable

/-!
# Printable characters

Which characters a quoted text shows as they are.
-/

namespace JavaConstants.Unicode

/-- The ranges of separators, controls and other characters without a shape, from U+0080 on. -/
def unprintableRanges : RangeTable := .ofText unprintableText

/-- The ranges of the property Grapheme_Extend. -/
def graphemeExtendRanges : RangeTable := .ofText graphemeExtendText

/-- Whether a character has a shape of its own: no control, no separator but the blank. -/
def isPrintable (c : Char) : Bool :=
  let n := c.toNat
  if n < 0x80 then 0x20 ≤ n && n < 0x7F else !unprintableRanges.contains n

/-- Whether a character only extends the one before it. -/
def isGraphemeExtend (c : Char) : Bool :=
  0x300 ≤ c.toNat && graphemeExtendRanges.contains c.toNat

end JavaConstants.Unicode
