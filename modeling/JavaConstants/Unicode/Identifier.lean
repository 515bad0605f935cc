import JavaConstants.Unicode.RangeTable
import JavaConstants.Unicode.IdentifierTable

/-!
# Default identifier characters

The properties XID_Start and XID_Continue. The second is the first together with the characters
that may only continue an identifier, so every start character is a continue character by
construction (`isIdContinue_of_isIdStart`).
-/

namespace JavaConstants.Unicode

/-- The ranges of XID_Start from U+0080 on. -/
def idStartRanges : RangeTable := .ofText identifierStartText

/-- The ranges of the characters that continue but do not start an identifier, from U+0080 on. -/
def idExtendRanges : RangeTable := .ofText identifierExtendText

/-- Whether a character has the property XID_Start. -/
def isIdStart (c : Char) : Bool :=
  if c.toNat < 0x80 then c.isAlpha else idStartRanges.contains c.toNat

/-- Whether a character has the property XID_Continue but not XID_Start. -/
def isIdExtend (c : Char) : Bool :=
  if c.toNat < 0x80 then c.isDigit || c == '_' else idExtendRanges.contains c.toNat

/-- Whether a character has the property XID_Continue. -/
def isIdContinue (c : Char) : Bool := isIdStart c || isIdExtend c

theorem isIdContinue_of_isIdStart {c : Char} (h : isIdStart c = true) : isIdContinue c = true := by
  simp [isIdContinue, h]

end JavaConstants.Unicode
