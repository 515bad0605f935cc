import JavaConstants.Unicode.RangeTable
import JavaConstants.Unicode.CompositionTable

/-!
# The composed normal form

Normalization form C: every character is decomposed canonically, runs of combining marks are put
into the order of their classes, and what can be composed is composed again. Hangul syllables are
decomposed and composed by arithmetic on their positions.
-/

namespace JavaConstants.Unicode

/-- Full canonical decompositions. -/
def decompositions : MapTable := .ofText decompositionText

/-- The pairs that compose. -/
def compositions : PairTable := .ofText compositionText

/-- Nonzero canonical combining classes. -/
def combiningClasses : RankTable := .ofText combiningClassText

/-- The canonical combining class of a character; zero for starters. -/
def combiningClass (c : Char) : Nat :=
  if c.toNat < 0x300 then 0 else combiningClasses.rank c.toNat

/-! ## Hangul syllables -/

/-- The first precomposed Hangul syllable. -/
def hangulBase : Nat := 0xAC00

/-- The number of precomposed Hangul syllables. -/
def hangulCount : Nat := 19 * 21 * 28

/-- The jamo of the precomposed Hangul syllable at position `i`. -/
def hangulJamo (i : Nat) : List Char :=
  [Char.ofNat (0x1100 + i / (21 * 28)), Char.ofNat (0x1161 + i % (21 * 28) / 28)] ++
    (if i % 28 = 0 then [] else [Char.ofNat (0x11A7 + i % 28)])

/-- Composes a leading and a vowel jamo, or a syllable without a trailing jamo and one. -/
def composeHangul? (a b : Nat) : Option Char :=
  if 0x1100 ≤ a ∧ a < 0x1100 + 19 ∧ 0x1161 ≤ b ∧ b < 0x1161 + 21 then
    some (Char.ofNat (hangulBase + ((a - 0x1100) * 21 + (b - 0x1161)) * 28))
  else if hangulBase ≤ a ∧ a < hangulBase + hangulCount ∧ (a - hangulBase) % 28 = 0 ∧
      0x11A7 < b ∧ b < 0x11A7 + 28 then
    some (Char.ofNat (a + (b - 0x11A7)))
  else none

/-! ## Decomposition, order, composition -/

/-- The full canonical decomposition of one character. -/
def decomposeChar (c : Char) : List Char :=
  let n := c.toNat
  if n < 0xC0 then [c]
  else if hangulBase ≤ n ∧ n < hangulBase + hangulCount then hangulJamo (n - hangulBase)
  else match decompositions.get? n with
    | some image => image.map Char.ofNat
    | none => [c]

/-- Puts a character in front of an ordered list, behind the marks of lower class it meets first. -/
def insertMark (c : Char) : List Char → List Char
  | [] => [c]
  | d :: ds =>
    if combiningClass d ≠ 0 ∧ combiningClass d < combiningClass c then d :: insertMark c ds
    else c :: d :: ds

/-- The canonical order: runs of marks sorted by class, marks of one class as they stand. -/
def canonicalOrder (cs : List Char) : List Char := cs.foldr insertMark []

/-- The primary composite of a pair of characters. -/
def composePair? (a b : Char) : Option Char :=
  match composeHangul? a.toNat b.toNat with
  | some c => some c
  | none => (compositions.get? (PairTable.key a.toNat b.toNat)).map Char.ofNat

/--
Composes the starter `s` with what follows it. `kept` holds, last first, the marks already passed
that did not compose. A character is blocked by a kept mark whose class is not lower than its own.
-/
def composeAfter (s : Char) (kept : List Char) : List Char → List Char
  | [] => s :: kept.reverse
  | c :: cs =>
    let blocked := match kept with
      | [] => false
      | k :: _ => decide (combiningClass c ≤ combiningClass k)
    match if blocked then none else composePair? s c with
    | some p => composeAfter p kept cs
    | none =>
      if combiningClass c = 0 then s :: kept.reverse ++ composeAfter c [] cs
      else composeAfter s (c :: kept) cs

/-- Composes a decomposed text; marks before the first starter stay as they are. -/
def compose : List Char → List Char
  | [] => []
  | c :: cs => if combiningClass c = 0 then composeAfter c [] cs else c :: compose cs

/-- Normalization form C of a text. -/
def composed (s : String) : String :=
  String.ofList (compose (canonicalOrder (s.toList.flatMap decomposeChar)))

end JavaConstants.Unicode
