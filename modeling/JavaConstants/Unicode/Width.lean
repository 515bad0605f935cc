import JavaConstants.Unicode.RangeTable
import JavaConstants.Unicode.WidthTable

/-!
# Display width

The number of columns a text takes on a fixed-width display: two for East Asian wide and full-width
characters, none for combining marks and default-ignorable characters, one for the rest.
-/

namespace JavaConstants.Unicode

/-- The ranges of two-column characters. -/
def wideRanges : RangeTable := .ofText wideText

/-- The ranges of characters that take no column. -/
def zeroWidthRanges : RangeTable := .ofText zeroWidthText

/-- The columns of one character. -/
def charWidth (c : Char) : Nat :=
  let n := c.toNat
  if n < 0x80 then 1
  else if wideRanges.contains n then 2
  else if zeroWidthRanges.contains n then 0
  else 1

/-- The columns of a text. -/
def width (s : String) : Nat := s.toList.foldl (fun n c ↦ n + charWidth c) 0

end JavaConstants.Unicode
