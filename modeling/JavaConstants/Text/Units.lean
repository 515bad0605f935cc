/-!
# UTF-16 units

Surrogates and the characters that pairs of them stand for.
-/

namespace JavaConstants

/-- Whether a unit is the first of a pair. -/
def isHighSurrogate (unit : Nat) : Bool := 0xD800 ≤ unit && unit ≤ 0xDBFF

/-- Whether a unit is the second of a pair. -/
def isLowSurrogate (unit : Nat) : Bool := 0xDC00 ≤ unit && unit ≤ 0xDFFF

/-- The character a pair of surrogates stands for. -/
def pairChar (high low : Nat) : Char :=
  Char.ofNat (0x10000 + (high - 0xD800) * 0x400 + (low - 0xDC00))

/-- The UTF-16 units of a character. -/
def charUnits (c : Char) : List Nat :=
  if c.toNat < 0x10000 then [c.toNat]
  else [0xD800 + (c.toNat - 0x10000) / 0x400, 0xDC00 + (c.toNat - 0x10000) % 0x400]

/-- Decodes units with U+FFFD for each surrogate without its partner. -/
def unitsLossy : List Nat → List Char
  | [] => []
  | u :: us =>
    if isHighSurrogate u then
      match us with
      | v :: vs =>
        if isLowSurrogate v then pairChar u v :: unitsLossy vs
        else '\ufffd' :: unitsLossy (v :: vs)
      | [] => ['\ufffd']
    else (if isLowSurrogate u then '\ufffd' else Char.ofNat u) :: unitsLossy us

end JavaConstants
