/-!
# UTF-8

Decoding of bytes. An ill-formed sequence is cut at its longest well-formed beginning; reading with
replacement puts one U+FFFD there, strict reading fails.
-/

namespace JavaConstants

/-- The number of bytes that follow a leading byte, and the range the first of them must lie in;
none for a byte that cannot lead. -/
def utf8Lead? (b : UInt8) : Option (Nat × UInt8 × UInt8) :=
  if b < 0x80 then some (0, 0x80, 0xBF)
  else if b < 0xC2 then none
  else if b < 0xE0 then some (1, 0x80, 0xBF)
  else if b = 0xE0 then some (2, 0xA0, 0xBF)
  else if b = 0xED then some (2, 0x80, 0x9F)
  else if b < 0xF0 then some (2, 0x80, 0xBF)
  else if b = 0xF0 then some (3, 0x90, 0xBF)
  else if b < 0xF4 then some (3, 0x80, 0xBF)
  else if b = 0xF4 then some (3, 0x80, 0x8F)
  else none

/-- The value bits of a leading byte that `following` bytes follow. -/
def utf8LeadBits (b : UInt8) (following : Nat) : Nat :=
  match following with
  | 0 => b.toNat
  | 1 => b.toNat % 0x20
  | 2 => b.toNat % 0x10
  | _ => b.toNat % 0x08

/-- Reads the rest of a sequence: the character if all bytes are there, and the number of bytes
read. The next byte must lie between `lo` and `hi`, `value` holds the bits read. -/
def utf8Tail (value : Nat) (lo hi : UInt8) : (following : Nat) → List UInt8 → Option Char × Nat
  | 0, _ => (some (Char.ofNat value), 0)
  | _ + 1, [] => (none, 0)
  | following + 1, b :: bs =>
    if lo ≤ b ∧ b ≤ hi then
      let (c, n) := utf8Tail (value * 64 + b.toNat % 64) 0x80 0xBF following bs
      (c, n + 1)
    else (none, 0)

/-- Reads one character: the character, or none for an ill-formed sequence, and the number of bytes
read behind the first. -/
def utf8Next (b : UInt8) (bs : List UInt8) : Option Char × Nat :=
  match utf8Lead? b with
  | none => (none, 0)
  | some (following, lo, hi) => utf8Tail (utf8LeadBits b following) lo hi following bs

/-- Decodes bytes with U+FFFD for each ill-formed sequence; the first `skip` are passed over. -/
def utf8Lossy : (skip : Nat) → List UInt8 → List Char
  | _, [] => []
  | skip + 1, _ :: bs => utf8Lossy skip bs
  | 0, b :: bs =>
    let (c, n) := utf8Next b bs
    c.getD '\ufffd' :: utf8Lossy n bs

/-- Decodes well-formed bytes; the first `skip` bytes are passed over. -/
def utf8Strict? : (skip : Nat) → List UInt8 → Option (List Char)
  | _, [] => some []
  | skip + 1, _ :: bs => utf8Strict? skip bs
  | 0, b :: bs =>
    match utf8Next b bs with
    | (none, _) => none
    | (some c, n) => (utf8Strict? n bs).map (c :: ·)

/-- The number of bytes before the first ill-formed sequence, if there is one. -/
def utf8Invalid? : (skip : Nat) → List UInt8 → Option Nat
  | _, [] => none
  | skip + 1, _ :: bs => (utf8Invalid? skip bs).map (· + 1)
  | 0, b :: bs =>
    match utf8Next b bs with
    | (none, _) => some 0
    | (some _, n) => (utf8Invalid? n bs).map (· + 1)

/-- The bytes of a text. -/
def utf8Bytes (s : String) : List UInt8 := s.toUTF8.toList

/-- The byte order mark. -/
def byteOrderMark : Char := '\ufeff'

/-- Characters without one leading byte order mark. -/
def dropByteOrderMark : List Char → List Char
  | [] => []
  | c :: cs => if c = byteOrderMark then cs else c :: cs

example : utf8Lossy 0 [0x61, 0xE2, 0x82, 0xC3, 0xA9, 0xFF] = ['a', '\ufffd', 'é', '\ufffd'] := by
  decide

end JavaConstants
