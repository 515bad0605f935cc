import JavaConstants.Unicode.RangeTable
import JavaConstants.Unicode.AlphanumericTable

/-!
# Letters and numbers

The characters that are letters or numbers of any script.
-/

namespace JavaConstants.Unicode

/-- The ranges of letters and numbers from U+0080 on. -/
def alphanumericRanges : RangeTable := .ofText alphanumericText

/-- Whether a character is a letter or a number. -/
def isAlphanumeric (c : Char) : Bool :=
  if c.toNat < 0x80 then c.isAlphanum else alphanumericRanges.contains c.toNat

end JavaConstants.Unicode
