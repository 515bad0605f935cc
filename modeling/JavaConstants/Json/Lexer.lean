import JavaConstants.Decimal.Binary
import JavaConstants.Json.Error
import JavaConstants.Text.Hex
import JavaConstants.Text.Units
import JavaConstants.Text.Utf8

/-!
# Tokens of a JSON text

Splits the bytes of a JSON text into tokens. A token whose text is broken carries its fault, so that
the parser can report whichever fault comes first. Numbers are only checked: a number must follow
the grammar and must not round to infinity as a 64-bit float.
-/

namespace JavaConstants.Json

/-- What a token stands for. -/
inductive Content where
  /-- One of the six structural characters. -/
  | mark
  | null
  | bool (b : Bool)
  | number
  | string (s : String)
  deriving DecidableEq, Repr

/-- A token: its first byte, the bytes from that byte on, and what it stands for. -/
structure Token where
  /-- The first byte. -/
  first : UInt8
  /-- The number of bytes from the first one to the end of the text. -/
  remaining : Nat
  /-- What the token stands for, or what is wrong with it. -/
  content : Except Fault Content

/-- A fault at the first byte of a token. -/
def Token.fault (t : Token) (cause : ErrorCause) : Fault := ⟨cause, t.remaining - 1⟩

/-- The byte of an ASCII character. -/
def byteOf (c : Char) : UInt8 := UInt8.ofNat c.toNat

/-- Whether a byte is a decimal digit. -/
def isDigitByte (b : UInt8) : Bool := 0x30 ≤ b && b ≤ 0x39

/-! ## Strings -/

/-- The value of four hexadecimal digits at the start of some bytes. -/
def hexEscape (bs : List UInt8) : Except Fault Nat :=
  match bs with
  | a :: b :: c :: d :: rest =>
    let cs := [a, b, c, d].map fun x ↦ Char.ofNat x.toNat
    if cs.all isHexDigit then .ok (ofHexDigits cs) else .error ⟨.invalidEscape, rest.length⟩
  | _ => .error ⟨.endInString, 0⟩

/-- The character of a `\u` escape whose first surrogate is `high`, given the bytes behind it, and
the number of bytes read. -/
def secondEscape (high : Nat) (bs : List UInt8) : Except Fault (Char × Nat) :=
  match bs with
  | [] => .error ⟨.endInString, 0⟩
  | 0x5C :: rest =>
    match rest with
    | [] => .error ⟨.endInString, 0⟩
    | 0x75 :: rest => do
      let low ← hexEscape rest
      if isLowSurrogate low then .ok (pairChar high low, 6)
      else .error ⟨.loneSurrogate, rest.length - 4⟩
    | _ :: rest => .error ⟨.unfinishedPair, rest.length⟩
  | _ :: rest => .error ⟨.unfinishedPair, rest.length⟩

/-- The character an escape stands for, given the bytes behind its backslash, and the number of
bytes read. -/
def scanEscape (bs : List UInt8) : Except Fault (Char × Nat) :=
  match bs with
  | [] => .error ⟨.endInString, 0⟩
  | 0x75 :: rest => do
    let unit ← hexEscape rest
    if isLowSurrogate unit then .error ⟨.loneSurrogate, rest.length - 4⟩
    else if isHighSurrogate unit then
      let (c, n) ← secondEscape unit (rest.drop 4)
      .ok (c, 5 + n)
    else .ok (Char.ofNat unit, 5)
  | b :: rest =>
    match Char.ofNat b.toNat with
    | '"' => .ok ('"', 1)
    | '\\' => .ok ('\\', 1)
    | '/' => .ok ('/', 1)
    | 'b' => .ok ('\x08', 1)
    | 'f' => .ok ('\x0c', 1)
    | 'n' => .ok ('\n', 1)
    | 'r' => .ok ('\r', 1)
    | 't' => .ok ('\t', 1)
    | _ => .error ⟨.invalidEscape, rest.length⟩

/-- The bytes a string stands for, given the bytes behind its opening quote, and the number of bytes
up to and with the closing one. The first `skip` bytes belong to an escape. -/
def scanString : (skip : Nat) → List UInt8 → Except Fault (List UInt8 × Nat)
  | _, [] => .error ⟨.endInString, 0⟩
  | skip + 1, _ :: bs => do
    let (content, n) ← scanString skip bs
    .ok (content, n + 1)
  | 0, b :: bs =>
    if b = 0x22 then .ok ([], 1)
    else if b = 0x5C then do
      let (c, k) ← scanEscape bs
      let (content, n) ← scanString k bs
      .ok (String.utf8EncodeChar c ++ content, n + 1)
    else if b < 0x20 then .error ⟨.controlCharacter, bs.length⟩
    else do
      let (content, n) ← scanString 0 bs
      .ok (b :: content, n + 1)

/-- The text of a string, given the bytes behind its opening quote, and the number of bytes read. -/
def readString (bs : List UInt8) : Except Fault (String × Nat) := do
  let (content, n) ← scanString 0 bs
  match utf8Strict? 0 content with
  | some cs => .ok (String.ofList cs, n)
  | none => .error ⟨.invalidCodePoint, bs.length - ((utf8Invalid? 0 (bs.take n)).getD 0 + 1)⟩

/-! ## Numbers -/

/-- The greatest whole number that is accumulated exactly. -/
def maxSignificand : Nat := Nat.pow 2 64 - 1

/-- The greatest exponent that is accumulated. -/
def maxExponent : Nat := Nat.pow 2 31 - 1

/-- Whether `significand · 10 ^ exponent`, computed as a product of two 64-bit floats, is finite. -/
def isFiniteProduct (significand : Nat) (exponent : Int) : Bool :=
  if significand = 0 ∨ exponent < 0 then true
  else if 308 < exponent then false
  else match BinaryFormat.double.nearest? ⟨false, significand, 0⟩,
      BinaryFormat.double.nearest? ⟨false, 1, exponent⟩ with
    | some a, some b =>
      let q := a.exponent + b.exponent
      let (num, den) := if 0 ≤ q then (a.mantissa * b.mantissa * Nat.pow 2 q.toNat, 1)
        else (a.mantissa * b.mantissa, Nat.pow 2 (-q).toNat)
      (BinaryFormat.double.nearestFraction? false num den).isSome
    | _, _ => false

/-- Accumulates digits as long as the number stays exact: the number, and the digits left over. -/
def accumulate (significand : Nat) : List UInt8 → Nat × List UInt8
  | [] => (significand, [])
  | b :: bs =>
    let next := significand * 10 + (b.toNat - 0x30)
    if next ≤ maxSignificand then accumulate next bs else (significand, b :: bs)

/-- The end of a number: its range is checked. -/
def endNumber (significand : Nat) (exponent : Int) (rest : List UInt8) :
    Except Fault (List UInt8) :=
  if isFiniteProduct significand exponent then .ok rest
  else .error ⟨.numberOutOfRange, rest.length⟩

/-- The digits of an exponent; `e` is what they make so far. -/
def scanExponentDigits (significand : Nat) (start : Int) (positive : Bool) (e : Nat) :
    List UInt8 → Except Fault (List UInt8)
  | [] => endNumber significand (if positive then start + e else start - e) []
  | b :: bs =>
    if isDigitByte b then
      let next := e * 10 + (b.toNat - 0x30)
      if maxExponent < next then
        if significand ≠ 0 ∧ positive then .error ⟨.numberOutOfRange, bs.length⟩
        else .ok (bs.dropWhile isDigitByte)
      else scanExponentDigits significand start positive next bs
    else endNumber significand (if positive then start + e else start - e) (b :: bs)

/-- An exponent behind its `e`. -/
def scanExponent (significand : Nat) (start : Int) (bs : List UInt8) :
    Except Fault (List UInt8) :=
  let (positive, rest) := match bs with
    | 0x2B :: rest => (true, rest)
    | 0x2D :: rest => (false, rest)
    | _ => (true, bs)
  match rest with
  | [] => .error ⟨.endInValue, 0⟩
  | b :: rest =>
    if isDigitByte b then
      scanExponentDigits significand start positive (b.toNat - 0x30) rest
    else .error ⟨.invalidNumber, rest.length⟩

/-- A fraction behind its point. -/
def scanFraction (significand : Nat) (start : Int) (bs : List UInt8) :
    Except Fault (List UInt8) :=
  let digits := bs.takeWhile isDigitByte
  let rest := bs.dropWhile isDigitByte
  if digits.isEmpty then
    .error (if rest.isEmpty then ⟨.endInValue, 0⟩ else ⟨.invalidNumber, rest.length - 1⟩)
  else
    let (significand, left) := accumulate significand digits
    let exponent := start - (digits.length - left.length : Nat)
    match rest with
    | b :: bs =>
      if b = 0x65 ∨ b = 0x45 then scanExponent significand exponent bs
      else endNumber significand exponent rest
    | [] => endNumber significand exponent []

/-- What may follow the whole part of a number. -/
def scanNumberTail (significand : Nat) (exponent : Int) (rest : List UInt8) :
    Except Fault (List UInt8) :=
  match rest with
  | b :: bs =>
    if b = 0x2E then scanFraction significand exponent bs
    else if b = 0x65 ∨ b = 0x45 then scanExponent significand exponent bs
    else endNumber significand exponent rest
  | [] => endNumber significand exponent []

/-- A number without its sign: the bytes behind it. -/
def scanNumber (bs : List UInt8) : Except Fault (List UInt8) :=
  match bs with
  | [] => .error ⟨.endInValue, 0⟩
  | b :: rest =>
    if b = 0x30 then
      if rest.head?.any isDigitByte then .error ⟨.invalidNumber, rest.length - 1⟩
      else scanNumberTail 0 0 rest
    else if isDigitByte b then
      let digits := bs.takeWhile isDigitByte
      let (significand, left) := accumulate 0 digits
      scanNumberTail significand left.length (bs.dropWhile isDigitByte)
    else .error ⟨.invalidNumber, rest.length⟩

/-! ## Tokens -/

/-- Checks that bytes begin with the rest of a word. -/
def scanWord (word : List Char) (bs : List UInt8) : Except Fault Unit :=
  match word, bs with
  | [], _ => .ok ()
  | _ :: _, [] => .error ⟨.endInValue, 0⟩
  | c :: cs, b :: bs =>
    if b = byteOf c then scanWord cs bs else .error ⟨.expectedIdent, bs.length⟩

/-- Whether a byte is white space between tokens. -/
def isSpaceByte (b : UInt8) : Bool := b == 0x20 || b == 0x0A || b == 0x09 || b == 0x0D

/-- What the token stands for that starts with the byte `b`, and the number of its further bytes. -/
def scanToken (b : UInt8) (bs : List UInt8) : Except Fault (Content × Nat) :=
  match Char.ofNat b.toNat with
  | '{' | '}' | '[' | ']' | ',' | ':' => .ok (.mark, 0)
  | '"' => do
    let (s, n) ← readString bs
    .ok (.string s, n)
  | 'n' => do scanWord ['u', 'l', 'l'] bs; .ok (.null, 3)
  | 't' => do scanWord ['r', 'u', 'e'] bs; .ok (.bool true, 3)
  | 'f' => do scanWord ['a', 'l', 's', 'e'] bs; .ok (.bool false, 4)
  | '-' => do
    let rest ← scanNumber bs
    .ok (.number, bs.length - rest.length)
  | _ =>
    if isDigitByte b then do
      let rest ← scanNumber (b :: bs)
      .ok (.number, bs.length - rest.length)
    else .error ⟨.expectedValue, bs.length⟩

/-- The tokens of a text, up to the first that is broken. -/
def tokenize : List UInt8 → List Token
  | [] => []
  | b :: bs =>
    if isSpaceByte b then tokenize bs
    else match scanToken b bs with
      | .error e => [⟨b, bs.length + 1, .error e⟩]
      | .ok (content, n) => ⟨b, bs.length + 1, .ok content⟩ :: tokenize (bs.drop n)
termination_by bs => bs.length
decreasing_by all_goals simp; try omega

end JavaConstants.Json
