import JavaConstants.Text.Hex
import JavaConstants.Toml.Value

/-!
# Words of TOML

Integers, floating-point numbers and the words for truth values. A run of digits may have single
underscores between its digits.
-/

namespace JavaConstants.Toml

/-- Whether a character may stand in a number or a word. -/
def isWordChar (c : Char) : Bool :=
  c.isAlphanum || c == '_' || c == '.' || c == '+' || c == '-'

/-- The digits of a run without its underscores, each of which must stand between two digits. -/
def plainDigits? (isDigit : Char → Bool) : List Char → Option (List Char)
  | [] => none
  | [c] => if isDigit c then some [c] else none
  | c :: '_' :: cs => if isDigit c then (plainDigits? isDigit cs).map (c :: ·) else none
  | c :: cs => if isDigit c then (plainDigits? isDigit cs).map (c :: ·) else none

/-- The digits of a decimal number without a fraction; only zero itself starts with a zero. -/
def wholeDigits? (cs : List Char) : Option (List Char) :=
  if cs.head? = some '0' ∧ cs.length ≠ 1 then none else plainDigits? Char.isDigit cs

/-! ## Integers -/

/-- The number that digits of a base spell. -/
def ofDigits (base : Nat) (cs : List Char) : Nat :=
  cs.foldl (fun n c ↦ base * n + (hexDigit? c).getD 0) 0

/-- The integer a word spells: decimal with an optional sign, or with a mark for its base. -/
def integer? (word : List Char) : Option Int :=
  match word with
  | '0' :: 'x' :: cs => (plainDigits? isHexDigit cs).map fun ds ↦ (ofDigits 16 ds : Int)
  | '0' :: 'o' :: cs =>
    (plainDigits? (fun c ↦ '0' ≤ c && c ≤ '7') cs).map fun ds ↦ (ofDigits 8 ds : Int)
  | '0' :: 'b' :: cs =>
    (plainDigits? (fun c ↦ c == '0' || c == '1') cs).map fun ds ↦ (ofDigits 2 ds : Int)
  | _ =>
    let (negative, cs) := splitSign word
    (wholeDigits? cs).map fun ds ↦
      if negative then -(ofDigits 10 ds : Int) else (ofDigits 10 ds : Int)

/-! ## Floating-point numbers -/

/-- Whether a run of digits with an optional sign is well-formed. -/
def isExponent (cs : List Char) : Bool := (plainDigits? Char.isDigit (splitSign cs).2).isSome

/-- Whether a character starts an exponent. -/
def isExponentMark (c : Char) : Bool := c == 'e' || c == 'E'

/-- Whether what follows the whole part of a number makes it a floating-point number: a fraction,
an exponent, or both. -/
def isFloatTail : List Char → Bool
  | [] => false
  | c :: cs =>
    if c = '.' then
      (plainDigits? Char.isDigit (cs.takeWhile fun d ↦ !isExponentMark d)).isSome &&
        match cs.dropWhile fun d ↦ !isExponentMark d with
        | [] => true
        | _ :: ds => isExponent ds
    else isExponentMark c && isExponent cs

/-- The floating-point number a word spells. A number that is too great is none. -/
def float? (word : List Char) : Option Double :=
  let (negative, cs) := splitSign word
  if cs = ['i', 'n', 'f'] then some (.infinite negative)
  else if cs = ['n', 'a', 'n'] then some .notANumber
  else
    let isWhole (c : Char) : Bool := c.isDigit || c == '_'
    if (wholeDigits? (cs.takeWhile isWhole)).isSome && isFloatTail (cs.dropWhile isWhole) then
      match Double.parse? (String.ofList (word.filter (· ≠ '_'))) with
      | some (.infinite false) => none
      | x => x
    else none

/-! ## Words -/

/-- The value a word stands for. -/
def Value.ofWord? (word : List Char) : Option Value :=
  if word = ['t', 'r', 'u', 'e'] then some (.boolean true)
  else if word = ['f', 'a', 'l', 's', 'e'] then some (.boolean false)
  else match integer? word with
    | some i => if fitsWord 64 i then some (.integer i) else none
    | none => (float? word).map .float

end JavaConstants.Toml
