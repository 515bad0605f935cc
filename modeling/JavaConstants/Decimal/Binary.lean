import JavaConstants.Decimal.Basic

/-!
# Binary floating point

Finite binary numbers `± mantissa · 2 ^ exponent`, the nearest one to a decimal number, and the
shortest decimal number that reads back as a given one. All arithmetic is exact.
-/

namespace JavaConstants

/-- A binary floating-point format. -/
structure BinaryFormat where
  /-- The bits of a mantissa. -/
  precision : Nat
  /-- The least exponent. -/
  minExponent : Int
  /-- The greatest exponent. -/
  maxExponent : Int

namespace BinaryFormat

/-- The format with 32 bits. -/
def single : BinaryFormat := ⟨24, -149, 104⟩

/-- The format with 64 bits. -/
def double : BinaryFormat := ⟨53, -1074, 971⟩

end BinaryFormat

/-- The number `± mantissa · 2 ^ exponent`. -/
structure Binary where
  /-- Whether the sign is a minus. -/
  negative : Bool
  /-- The mantissa. -/
  mantissa : Nat
  /-- The power of two. -/
  exponent : Int
  deriving DecidableEq, Repr

/-! ## From decimal to binary -/

/-- `a / b`, and `num / den` scaled by `2 ^ (-q)`, as a fraction. -/
def scaleDown (num den : Nat) (q : Int) : Nat × Nat :=
  if 0 ≤ q then (num, den * Nat.pow 2 q.toNat) else (num * Nat.pow 2 (-q).toNat, den)

/-- The integer nearest to a fraction; a half goes to the even neighbour. -/
def roundHalfEven (num den : Nat) : Nat :=
  let n := num / den
  let r := num % den
  if den < 2 * r ∨ (2 * r = den ∧ n % 2 = 1) then n + 1 else n

/-- The binary number nearest to `num / den`; none where it is too great for the format. -/
def BinaryFormat.nearestFraction? (f : BinaryFormat) (negative : Bool) (num den : Nat) :
    Option Binary :=
  if num = 0 then some ⟨negative, 0, f.minExponent⟩
  else
    let guess := max f.minExponent ((Nat.log2 num : Int) - Nat.log2 den - f.precision)
    let (a, b) := scaleDown num den guess
    let q := if Nat.pow 2 f.precision ≤ a / b then guess + 1 else guess
    let (a, b) := scaleDown num den q
    let m := roundHalfEven a b
    let (m, q) := if m = Nat.pow 2 f.precision then (Nat.pow 2 (f.precision - 1), q + 1) else (m, q)
    if f.maxExponent < q then none else some ⟨negative, m, q⟩

/-- The binary number nearest to a decimal one; none where it is too great for the format. A number
far outside the format's range is not computed. -/
def BinaryFormat.nearest? (f : BinaryFormat) (d : Decimal) : Option Binary :=
  let top : Int := d.exponent + (digitChars d.digits).length
  if d.digits = 0 then some ⟨d.negative, 0, f.minExponent⟩
  else if f.maxExponent + f.precision < top then none
  else if top < f.minExponent then some ⟨d.negative, 0, f.minExponent⟩
  else if 0 ≤ d.exponent then
    f.nearestFraction? d.negative (d.digits * Nat.pow 10 d.exponent.toNat) 1
  else f.nearestFraction? d.negative d.digits (Nat.pow 10 (-d.exponent).toNat)

/-! ## From binary to the shortest decimal -/

/-- The decimal numbers that read back as a binary one: those between two fractions over a common
denominator, whose ends count if the mantissa is even. -/
structure ReadingInterval where
  /-- The numerator of the number itself. -/
  value : Nat
  /-- The numerator of the lower end. -/
  low : Nat
  /-- The numerator of the upper end. -/
  high : Nat
  /-- The common denominator. -/
  den : Nat
  /-- Whether the ends count. -/
  closed : Bool

/-- The interval of a nonzero binary number. Below a power of two the numbers stand closer. -/
def Binary.interval (f : BinaryFormat) (b : Binary) : ReadingInterval :=
  let closeBelow := b.mantissa = Nat.pow 2 (f.precision - 1) ∧ f.minExponent < b.exponent
  let value := 4 * b.mantissa
  let low := if closeBelow then value - 1 else value - 2
  let high := value + 2
  let closed := b.mantissa % 2 = 0
  if 0 ≤ b.exponent then
    let s := Nat.pow 2 b.exponent.toNat
    ⟨value * s, low * s, high * s, 4, closed⟩
  else ⟨value, low, high, 4 * Nat.pow 2 (-b.exponent).toNat, closed⟩

/-- Whether `n · 10 ^ k` lies in an interval. -/
def ReadingInterval.holds (i : ReadingInterval) (n : Nat) (k : Int) : Bool :=
  let (x, s) := if 0 ≤ k then (n * Nat.pow 10 k.toNat * i.den, 1)
    else (n * i.den, Nat.pow 10 (-k).toNat)
  if i.closed then i.low * s ≤ x && x ≤ i.high * s else i.low * s < x && x < i.high * s

/-- The neighbour of an interval's number on the grid of multiples of `10 ^ k` that lies in the
interval; of two the nearer, and of two at the same distance the greater. -/
def ReadingInterval.hit? (i : ReadingInterval) (k : Int) : Option Nat :=
  let (num, den) := if 0 ≤ k then (i.value, i.den * Nat.pow 10 k.toNat)
    else (i.value * Nat.pow 10 (-k).toNat, i.den)
  let n := num / den
  match i.holds n k, i.holds (n + 1) k with
  | true, true => some (if 2 * (num % den) < den then n else n + 1)
  | true, false => some n
  | false, true => some (n + 1)
  | false, false => none

/-- The first hit on the grids from `10 ^ k` downwards. -/
def ReadingInterval.firstHit? (i : ReadingInterval) : (grids : Nat) → (k : Int) → Option (Nat × Int)
  | 0, _ => none
  | grids + 1, k =>
    match i.hit? k with
    | some n => some (n, k)
    | none => i.firstHit? grids (k - 1)

/-- A power of ten that is greater than a binary number, as its exponent. -/
def Binary.decimalBound (b : Binary) : Int :=
  let bits : Int := (Nat.log2 b.mantissa : Int) + 1 + b.exponent
  if 0 ≤ bits then bits * 30103 / 100000 + 1 else bits * 30102 / 100000 + 1

/-- The decimal number with the fewest digits that reads back as a binary one, and of those the
nearest to it. -/
def Binary.shortest (f : BinaryFormat) (b : Binary) : Decimal :=
  if b.mantissa = 0 then ⟨b.negative, 0, 0⟩
  else match (b.interval f).firstHit? 40 b.decimalBound with
    | some (n, k) => ⟨b.negative, n, k⟩
    | none => ⟨b.negative, b.mantissa, 0⟩

example : ((BinaryFormat.double.nearest? ⟨false, 1, -1⟩).map (·.shortest .double)) =
    some ⟨false, 1, -1⟩ := by decide +kernel

end JavaConstants
