import JavaConstants.Unicode.RangeTable

/-!
# Indexes of charsets

The characters of a charset by position. The text of an index is a sequence of words: `A=xyz` puts
characters at the positions from `A` on, `A-B:C` puts the code points from `C` on at the positions
from `A` to `B`, and `A:C` puts one code point at one position.
-/

namespace JavaConstants.Charset

/-- The characters of a charset by position; U+FFFD stands where there is none. -/
structure Index where
  /-- The characters. -/
  chars : Array Char

namespace Index

/-- The position and the characters of one word. -/
def readWord (w : List Char) : Nat × List Char :=
  if w.contains '=' then
    let (position, cs) := Unicode.splitWord '=' w
    (ofHexDigits position, cs)
  else
    let (range, code) := Unicode.splitWord ':' w
    let (first, last) := Unicode.splitWord '-' range
    let position := ofHexDigits first
    let count := if last.isEmpty then 1 else ofHexDigits last + 1 - position
    (position, (List.range count).map fun i ↦ Char.ofNat (ofHexDigits code + i))

/-- Puts characters at the positions from `position` on, all of them at the end of an index. -/
def extend (chars : Array Char) (position : Nat) (cs : List Char) : Array Char :=
  cs.foldl Array.push (chars ++ Array.replicate (position - chars.size) '\ufffd')

/-- Reads an index whose words stand in ascending order. -/
def ofText (text : String) : Index :=
  ⟨(Unicode.tableWords text).foldl (fun chars w ↦
    let (position, cs) := readWord w
    extend chars position cs) #[]⟩

/-- The character at a position. -/
def get? (i : Index) (position : Nat) : Option Char :=
  match i.chars[position]? with
  | some c => if c = '\ufffd' then none else some c
  | none => none

end Index

end JavaConstants.Charset
