/-!
# Positions in a text

Lines and columns, both counted from one. A line ends at a line feed, a carriage return, the two
together, or a form feed; columns count UTF-16 units.
-/

namespace JavaConstants

/-- The number of UTF-16 units of a character. -/
def unitCount (c : Char) : Nat := if c.toNat < 0x10000 then 1 else 2

/-- A line and a column of a text. -/
structure Position where
  /-- The line, from one. -/
  line : Nat
  /-- The column, from one. -/
  column : Nat
  deriving DecidableEq, Repr

namespace Position

/-- The position of the first character. -/
def start : Position := ⟨1, 1⟩

/-- The position behind some characters that begin at a position. -/
def advance (p : Position) : List Char → Position
  | [] => p
  | '\r' :: '\n' :: cs => advance ⟨p.line + 1, 1⟩ cs
  | c :: cs =>
    if c = '\n' ∨ c = '\r' ∨ c = '\x0c' then advance ⟨p.line + 1, 1⟩ cs
    else advance ⟨p.line, p.column + unitCount c⟩ cs

example : start.advance ['a', '\r', '\n', '😀', 'b'] = ⟨2, 4⟩ := by decide

end Position

end JavaConstants
