import JavaConstants.Decimal.Binary

/-!
# Numbers in double precision

The values that a 64-bit floating-point number can have, the texts they are read from and the
positional notation they are written in.
-/

namespace JavaConstants

/-- A floating-point number in double precision. -/
inductive Double where
  | finite (b : Binary)
  | infinite (negative : Bool)
  | notANumber
  deriving DecidableEq, Repr

namespace Double

/-- The number nearest to a decimal one; a number too great for the format is infinite. -/
def ofDecimal (d : Decimal) : Double :=
  match BinaryFormat.double.nearest? d with
  | some b => .finite b
  | none => .infinite d.negative

/-- The number a text spells: decimal notation, or a word for an infinite number or for none at
all, in any case. -/
def parse? (s : String) : Option Double :=
  let (negative, cs) := splitSign s.toList
  let word := cs.map Char.toLower
  if word = ['i', 'n', 'f'] ∨ word = ['i', 'n', 'f', 'i', 'n', 'i', 't', 'y'] then
    some (.infinite negative)
  else if word = ['n', 'a', 'n'] then some .notANumber
  else (Decimal.parse? s).map ofDecimal

/-- Whether a number is zero. -/
def isZero : Double → Bool
  | finite b => b.mantissa == 0
  | _ => false

/-- The shortest text in positional notation that reads back. -/
def text : Double → String
  | finite b => (b.shortest .double).positional
  | infinite negative => if negative then "-inf" else "inf"
  | notANumber => "NaN"

/-- The text of a number, with a digit behind the point at least. -/
def pointedText (x : Double) : String :=
  match x with
  | finite _ => if x.text.toList.contains '.' then x.text else x.text ++ ".0"
  | _ => x.text

end Double

end JavaConstants
