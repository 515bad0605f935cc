import JavaConstants.Text.Hex

/-!
# Tables of code points

The Unicode tables of this library are written as text, one word per entry, the way the Unicode
data files write them: `41-5A` for a range and `DF=53.53` for a mapping, all numbers hexadecimal.
This module reads that text once into a sorted array and looks code points up by bisection. Every
table module below holds text only.
-/

namespace JavaConstants.Unicode

/-- Entries in ascending order of their keys. -/
structure SortedTable (α : Type) where
  /-- The entries, sorted by key. -/
  entries : Array (Nat × α)

namespace SortedTable

variable {α : Type}

/-- The last entry in `[lo, hi)` whose key is at most `n`, or else `best`. -/
def bisect (a : Array (Nat × α)) (n lo hi : Nat) (best : Option (Nat × α)) : Option (Nat × α) :=
  if lo < hi then
    match a[(lo + hi) / 2]? with
    | none => best
    | some e =>
      if e.1 ≤ n then bisect a n ((lo + hi) / 2 + 1) hi (some e)
      else bisect a n lo ((lo + hi) / 2) best
  else best
termination_by hi - lo

/-- The entry with the greatest key that is at most `n`. -/
def floor? (t : SortedTable α) (n : Nat) : Option (Nat × α) :=
  bisect t.entries n 0 t.entries.size none

/-- The value stored under exactly `n`. -/
def get? (t : SortedTable α) (n : Nat) : Option α :=
  match t.floor? n with
  | some (k, v) => if k = n then some v else none
  | none => none

end SortedTable

/-! ## Reading tables -/

/-- The words of a table text: the parts between blanks and line ends. -/
def tableWords (text : String) : List (List Char) :=
  (text.toList.splitOnP fun c ↦ c == ' ' || c == '\n').filter (!·.isEmpty)

/-- The part of a word before the first `sep` and the part after it. -/
def splitWord (sep : Char) (w : List Char) : List Char × List Char :=
  (w.takeWhile (· != sep), (w.dropWhile (· != sep)).drop 1)

/-- A set of code points: closed ranges keyed by their first member. -/
abbrev RangeTable := SortedTable Nat

namespace RangeTable

/-- Reads words of the form `A` and `A-B`. -/
def ofText (text : String) : RangeTable :=
  ⟨((tableWords text).map fun w ↦
    let (first, last) := splitWord '-' w
    (ofHexDigits first, if last.isEmpty then ofHexDigits first else ofHexDigits last)).toArray⟩

/-- Whether a code point lies in one of the ranges. -/
def contains (t : RangeTable) (n : Nat) : Bool :=
  match t.floor? n with
  | some (_, last) => decide (n ≤ last)
  | none => false

end RangeTable

/-- A map from code points to sequences of code points. -/
abbrev MapTable := SortedTable (List Nat)

namespace MapTable

/-- Reads words of the form `A=B.C`. -/
def ofText (text : String) : MapTable :=
  ⟨((tableWords text).map fun w ↦
    let (key, value) := splitWord '=' w
    (ofHexDigits key, (value.splitOnP (· == '.')).map ofHexDigits)).toArray⟩

end MapTable

/-- A map from pairs of code points to code points, keyed by both numbers in one. -/
abbrev PairTable := SortedTable Nat

namespace PairTable

/-- The key of a pair: code points stay below `0x110000`. -/
def key (a b : Nat) : Nat := a * 0x110000 + b

/-- Reads words of the form `A+B=C`. -/
def ofText (text : String) : PairTable :=
  ⟨((tableWords text).map fun w ↦
    let (pair, value) := splitWord '=' w
    let (a, b) := splitWord '+' pair
    (key (ofHexDigits a) (ofHexDigits b), ofHexDigits value)).toArray⟩

end PairTable

/-- Ranges of code points, each with one number. -/
abbrev RankTable := SortedTable (Nat × Nat)

namespace RankTable

/-- Reads words of the form `A=K` and `A-B=K`. -/
def ofText (text : String) : RankTable :=
  ⟨((tableWords text).map fun w ↦
    let (range, rank) := splitWord '=' w
    let (first, last) := splitWord '-' range
    (ofHexDigits first,
      if last.isEmpty then ofHexDigits first else ofHexDigits last, ofHexDigits rank)).toArray⟩

/-- The number of the range that holds a code point, or zero. -/
def rank (t : RankTable) (n : Nat) : Nat :=
  match t.floor? n with
  | some (_, last, k) => if n ≤ last then k else 0
  | none => 0

end RankTable

end JavaConstants.Unicode
