/-!
# Decimal numbers

Numbers in decimal notation: their spelling in texts and the digits behind it.
-/

namespace JavaConstants

/-- The number `± digits · 10 ^ exponent`. -/
structure Decimal where
  /-- Whether the sign is a minus. -/
  negative : Bool
  /-- The digits as one number. -/
  digits : Nat
  /-- The power of ten. -/
  exponent : Int
  deriving DecidableEq, Repr

/-- The number spelled by decimal digits; none for an empty list or any other character. -/
def digitsValue? (cs : List Char) : Option Nat :=
  if cs.isEmpty || !cs.all (·.isDigit) then none
  else some (cs.foldl (fun n c ↦ 10 * n + (c.toNat - 48)) 0)

/-- The decimal digits of a number. -/
def digitChars (n : Nat) : List Char := Nat.toDigits 10 n

/-- Whether a list starts with a minus, and the list behind its sign. -/
def splitSign : List Char → Bool × List Char
  | '+' :: cs => (false, cs)
  | '-' :: cs => (true, cs)
  | cs => (false, cs)

/-- The integer spelled by an optional sign and decimal digits. -/
def parseInteger? (s : String) : Option Int :=
  let (negative, cs) := splitSign s.toList
  (digitsValue? cs).map fun n ↦ if negative then -(n : Int) else n

/-- Whether an integer fits into a signed word of some bits. -/
def fitsWord (bits : Nat) (i : Int) : Bool :=
  -(Nat.pow 2 (bits - 1) : Int) ≤ i && i < (Nat.pow 2 (bits - 1) : Int)

/-- An integer in decimal notation. -/
def integerText (i : Int) : String :=
  (if i < 0 then "-" else "") ++ String.ofList (digitChars i.natAbs)

namespace Decimal

/-- The exponent part of a number: empty, or `e` and an integer. -/
def parseExponent? : List Char → Option Int
  | [] => some 0
  | c :: cs =>
    if c = 'e' ∨ c = 'E' then
      let (negative, digits) := splitSign cs
      (digitsValue? digits).map fun n ↦ if negative then -(n : Int) else n
    else none

/-- The number spelled by an optional sign, digits with at most one point among or beside them,
and an optional exponent. -/
def parse? (s : String) : Option Decimal :=
  let (negative, cs) := splitSign s.toList
  let whole := cs.takeWhile (·.isDigit)
  let rest := cs.dropWhile (·.isDigit)
  let fraction := match rest with
    | '.' :: ds => ds.takeWhile (·.isDigit)
    | _ => []
  let tail := match rest with
    | '.' :: ds => ds.dropWhile (·.isDigit)
    | _ => rest
  match digitsValue? (whole ++ fraction), parseExponent? tail with
  | some digits, some e => some ⟨negative, digits, e - fraction.length⟩
  | _, _ => none

/-! ## Layout -/

/-- The sign of a number as it is written. -/
def signText (d : Decimal) : String := if d.negative then "-" else ""

/-- Positional notation; a number without a fraction gets none. -/
def positional (d : Decimal) : String :=
  let ds := digitChars d.digits
  if 0 ≤ d.exponent then
    d.signText ++ String.ofList (if d.digits = 0 then ds
      else ds ++ List.replicate d.exponent.toNat '0')
  else
    let places := (-d.exponent).toNat
    let padded := List.replicate (places + 1 - ds.length) '0' ++ ds
    d.signText ++ String.ofList (padded.take (padded.length - places)) ++ "." ++
      String.ofList (padded.drop (padded.length - places))

/-- Scientific notation: one digit before the point, and a point only if more digits follow. -/
def scientific (d : Decimal) : String :=
  let ds := digitChars d.digits
  let e : Int := d.exponent + (ds.length - 1)
  d.signText ++ String.ofList (ds.take 1) ++
    (if ds.length ≤ 1 then "" else "." ++ String.ofList (ds.drop 1)) ++ "e" ++ integerText e

/-- The notation of generated constants: scientific for magnitudes from `10 ^ 16` on and below
`10 ^ (-4)`, else positional with at least one digit behind the point. -/
def constantText (d : Decimal) : String :=
  let top : Int := d.exponent + (digitChars d.digits).length
  if d.digits ≠ 0 ∧ (16 < top ∨ top < -3) then d.scientific
  else if d.digits = 0 ∨ 0 ≤ d.exponent then d.positional ++ ".0"
  else d.positional

example : (Decimal.mk false 15 (-1)).constantText = "1.5" := by decide

example : (Decimal.mk true 15 (-8)).constantText = "-1.5e-7" := by decide

example : (Decimal.mk false 1 15).constantText = "1000000000000000.0" := by decide

end Decimal

end JavaConstants
