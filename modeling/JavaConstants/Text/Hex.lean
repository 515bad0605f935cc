/-!
# Hexadecimal digits

The value of a hexadecimal digit, of a run of them, and the fixed-width lower- and upper-case
spellings of a number. Stylesheet escapes, `.properties` escapes, JSON escapes and the Unicode
tables all read their numbers here.
-/

namespace JavaConstants

/-- The value of an ASCII hexadecimal digit, in either case. -/
def hexDigit? (c : Char) : Option Nat :=
  if '0' ≤ c ∧ c ≤ '9' then some (c.toNat - 48)
  else if 'a' ≤ c ∧ c ≤ 'f' then some (c.toNat - 87)
  else if 'A' ≤ c ∧ c ≤ 'F' then some (c.toNat - 55)
  else none

/-- Whether a character is an ASCII hexadecimal digit. -/
def isHexDigit (c : Char) : Bool := (hexDigit? c).isSome

/-- The number that a run of hexadecimal digits spells; other characters count as zero. -/
def ofHexDigits (cs : List Char) : Nat :=
  cs.foldl (fun n c ↦ 16 * n + (hexDigit? c).getD 0) 0

/-- The last `width` digits of `n` in base sixteen, most significant first. -/
def fixedHex (digit : Nat → Char) (width n : Nat) : List Char :=
  (List.range width).reverse.map fun i ↦ digit (n >>> (4 * i) % 16)

/-- The lower-case spelling of one hexadecimal digit. -/
def lowerHexDigit (d : Nat) : Char := Char.ofNat (if d < 10 then 48 + d else 87 + d)

/-- The upper-case spelling of one hexadecimal digit. -/
def upperHexDigit (d : Nat) : Char := Char.ofNat (if d < 10 then 48 + d else 55 + d)

/-- The last four lower-case hexadecimal digits of `n`, zeros in front. -/
def lowerHex4 (n : Nat) : List Char := fixedHex lowerHexDigit 4 n

/-- The last four upper-case hexadecimal digits of `n`, zeros in front. -/
def upperHex4 (n : Nat) : List Char := fixedHex upperHexDigit 4 n

@[simp] theorem length_fixedHex (digit : Nat → Char) (width n : Nat) :
    (fixedHex digit width n).length = width := by
  simp [fixedHex]

example : lowerHex4 0x1f = ['0', '0', '1', 'f'] := rfl

example : ofHexDigits ['2', 'a', 'F'] = 0x2AF := rfl

end JavaConstants
