import JavaConstants.Charset.Index
import JavaConstants.Charset.Gb18030Table
import JavaConstants.Charset.Big5Table
import JavaConstants.Charset.EucKrTable
import JavaConstants.Charset.JisTable
import JavaConstants.Text.Units

/-!
# Multi-byte charsets

Decoders of the charsets that write a character as one byte or several. Each is a machine that
takes one byte at a time. A sequence that denotes nothing becomes one U+FFFD; a byte of ASCII that
ends such a sequence is read again on its own.
-/

namespace JavaConstants.Charset

/-- The replacement character. -/
def replacementChar : Char := '\ufffd'

/-- A decoder: what a byte writes in a state and the state behind it, and what the end of the input
writes in a state. -/
structure Decoder (σ : Type) where
  /-- The state before the first byte. -/
  start : σ
  /-- Reads one byte. -/
  step : σ → UInt8 → List Char × σ
  /-- Reads the end of the input. -/
  finish : σ → List Char

/-- Decodes bytes from a state on. -/
def Decoder.run {σ : Type} (d : Decoder σ) (s : σ) : List UInt8 → List Char
  | [] => d.finish s
  | b :: bs =>
    let (cs, s) := d.step s b
    cs ++ d.run s bs

/-- The character with the value of a byte. -/
def byteChar (b : UInt8) : Char := Char.ofNat b.toNat

/-- Whether a byte lies between two others, the ends included. -/
def between (lo hi : Nat) (b : UInt8) : Bool := lo ≤ b.toNat && b.toNat ≤ hi

/-- What a sequence writes that ends in the byte `b`: its character, or U+FFFD and, if it is ASCII,
the byte on its own. -/
def orReplacement (c : Option Char) (b : UInt8) : List Char :=
  match c with
  | some c => [c]
  | none => if b < 0x80 then [replacementChar, byteChar b] else [replacementChar]

/-- What the end of the input writes behind a sequence that is not complete. -/
def unfinished {α : Type} (pending : Option α) : List Char :=
  if pending.isSome then [replacementChar] else []

/-! ## Two bytes -/

/-- A decoder whose sequences have a leading and a trailing byte. `single?` gives the character of a
byte that stands alone, `pair?` that of a pair. -/
def pairDecoder (single? : UInt8 → Option Char) (isLead : UInt8 → Bool)
    (pair? : UInt8 → UInt8 → Option (List Char)) : Decoder (Option UInt8) where
  start := none
  step
    | none, b =>
      match single? b with
      | some c => ([c], none)
      | none => if isLead b then ([], some b) else ([replacementChar], none)
    | some lead, b =>
      match pair? lead b with
      | some cs => (cs, none)
      | none => (orReplacement none b, none)
  finish := unfinished

/-- The character of a byte of ASCII. -/
def ascii? (b : UInt8) : Option Char := if b < 0x80 then some (byteChar b) else none

/-- The position of a pair: `width` to a leading byte. -/
def pairPosition (width firstLead lead trail : Nat) : Nat := (lead - firstLead) * width + trail

/-- The two-byte sequences of Big5. -/
def big5Index : Index := .ofText big5Text

/-- The characters of a Big5 pair. Four pairs write a letter with a combining mark. -/
def big5Pair? (lead trail : UInt8) : Option (List Char) :=
  if between 0x40 0x7E trail || between 0xA1 0xFE trail then
    let offset := if trail < 0x7F then 0x40 else 0x62
    match pairPosition 157 0x81 lead.toNat (trail.toNat - offset) with
    | 1133 => some ['\u00ca', '\u0304']
    | 1135 => some ['\u00ca', '\u030c']
    | 1164 => some ['\u00ea', '\u0304']
    | 1166 => some ['\u00ea', '\u030c']
    | p => (big5Index.get? p).map ([·])
  else none

/-- Big5. -/
def big5Decoder : Decoder (Option UInt8) := pairDecoder ascii? (between 0x81 0xFE) big5Pair?

/-- The two-byte sequences of EUC-KR. -/
def eucKrIndex : Index := .ofText eucKrText

/-- The character of an EUC-KR pair. -/
def eucKrPair? (lead trail : UInt8) : Option (List Char) :=
  if between 0x41 0xFE trail then
    (eucKrIndex.get? (pairPosition 190 0x81 lead.toNat (trail.toNat - 0x41))).map ([·])
  else none

/-- EUC-KR. -/
def eucKrDecoder : Decoder (Option UInt8) := pairDecoder ascii? (between 0x81 0xFE) eucKrPair?

/-- JIS X 0208 by position. -/
def jis0208Index : Index := .ofText jis0208Text

/-- JIS X 0212 by position. -/
def jis0212Index : Index := .ofText jis0212Text

/-- The half-width katakana of a byte. -/
def halfKatakana (b : UInt8) (first : Nat) : Char := Char.ofNat (0xFF61 + (b.toNat - first))

/-- The character of a Shift_JIS byte that stands alone. -/
def shiftJisSingle? (b : UInt8) : Option Char :=
  if b ≤ 0x80 then some (byteChar b)
  else if between 0xA1 0xDF b then some (halfKatakana b 0xA1)
  else none

/-- The character of a Shift_JIS pair; a part of the positions is for private use. -/
def shiftJisPair? (lead trail : UInt8) : Option (List Char) :=
  if between 0x40 0x7E trail || between 0x80 0xFC trail then
    let offset := if trail < 0x7F then 0x40 else 0x41
    let firstLead := if lead < 0xA0 then 0x81 else 0xC1
    let p := pairPosition 188 firstLead lead.toNat (trail.toNat - offset)
    if 8836 ≤ p ∧ p ≤ 10715 then some [Char.ofNat (0xE000 + (p - 8836))]
    else (jis0208Index.get? p).map ([·])
  else none

/-- Shift_JIS. -/
def shiftJisDecoder : Decoder (Option UInt8) :=
  pairDecoder shiftJisSingle? (fun b ↦ between 0x81 0x9F b || between 0xE0 0xFC b) shiftJisPair?

/-! ## EUC-JP -/

/-- The bytes of a sequence read so far. -/
inductive EucJpState where
  /-- None. -/
  | idle
  /-- A leading byte; `wide` if it is the second byte of a three-byte sequence. -/
  | lead (wide : Bool) (b : UInt8)

/-- Reads one byte of EUC-JP. -/
def eucJpStep : EucJpState → UInt8 → List Char × EucJpState
  | .idle, b =>
    if b < 0x80 then ([byteChar b], .idle)
    else if b = 0x8E ∨ b = 0x8F ∨ between 0xA1 0xFE b then ([], .lead false b)
    else ([replacementChar], .idle)
  | .lead wide lead, b =>
    if lead = 0x8E ∧ between 0xA1 0xDF b then ([halfKatakana b 0xA1], .idle)
    else if lead = 0x8F ∧ between 0xA1 0xFE b then ([], .lead true b)
    else
      let c := if between 0xA1 0xFE lead && between 0xA1 0xFE b then
          (if wide then jis0212Index else jis0208Index).get?
            (pairPosition 94 0xA1 lead.toNat (b.toNat - 0xA1))
        else none
      (orReplacement c b, .idle)

/-- EUC-JP. -/
def eucJpDecoder : Decoder EucJpState where
  start := .idle
  step := eucJpStep
  finish
    | .idle => []
    | .lead _ _ => [replacementChar]

/-! ## GB 18030 -/

/-- The two-byte sequences of GB 18030. -/
def gb18030Index : Index := .ofText gb18030Text

/-- The ranges of the four-byte sequences of GB 18030. -/
def gb18030Ranges : Unicode.MapTable := .ofText gb18030RangeText

/-- The character of a four-byte sequence by its position. -/
def gb18030Range? (p : Nat) : Option Char :=
  if (39419 < p ∧ p < 189000) ∨ 1237575 < p then none
  else if p = 7457 then some (Char.ofNat 0xE7C7)
  else match gb18030Ranges.floor? p with
    | some (first, code :: _) => some (Char.ofNat (code + (p - first)))
    | _ => none

/-- The bytes of a sequence read so far. -/
inductive GbState where
  | idle
  | one (first : UInt8)
  | two (first second : UInt8)
  | three (first second third : UInt8)

/-- Reads a first byte. -/
def gbFirst (b : UInt8) : List Char × GbState :=
  if b < 0x80 then ([byteChar b], .idle)
  else if b = 0x80 then (['€'], .idle)
  else if b = 0xFF then ([replacementChar], .idle)
  else ([], .one b)

/-- Reads a second byte. -/
def gbSecond (first b : UInt8) : List Char × GbState :=
  if between 0x30 0x39 b then ([], .two first b)
  else
    let c := if between 0x40 0x7E b || between 0x80 0xFE b then
        let offset := if b < 0x7F then 0x40 else 0x41
        gb18030Index.get? (pairPosition 190 0x81 first.toNat (b.toNat - offset))
      else none
    (orReplacement c b, .idle)

/-- Reads one byte of GB 18030. A four-byte sequence that breaks off is read again from its second
byte, a digit, on. -/
def gbStep : GbState → UInt8 → List Char × GbState
  | .idle, b => gbFirst b
  | .one first, b => gbSecond first b
  | .two first second, b =>
    if between 0x81 0xFE b then ([], .three first second b)
    else
      let (cs, s) := gbFirst b
      (replacementChar :: byteChar second :: cs, s)
  | .three first second third, b =>
    if between 0x30 0x39 b then
      let p := ((first.toNat - 0x81) * 10 + (second.toNat - 0x30)) * 1260 +
        (third.toNat - 0x81) * 10 + (b.toNat - 0x30)
      ([(gb18030Range? p).getD replacementChar], .idle)
    else
      let (cs, s) := gbSecond third b
      (replacementChar :: byteChar second :: cs, s)

/-- GB 18030, which reads GBK as well. -/
def gb18030Decoder : Decoder GbState where
  start := .idle
  step := gbStep
  finish
    | .idle => []
    | _ => [replacementChar]

/-! ## ISO-2022-JP -/

/-- The sets that an escape sequence selects. -/
inductive JisSet where
  | ascii
  | roman
  | katakana
  | kanji
  deriving DecidableEq

/-- What is being read. -/
inductive JisMode where
  /-- A character of the selected set. -/
  | plain
  /-- The second byte of a pair. -/
  | trail (lead : UInt8)
  /-- The byte behind an escape. -/
  | escape
  /-- The byte behind an escape and `$` or `(`. -/
  | designator (lead : UInt8)

/-- The state of the decoder: the selected set, what is being read, and whether the last thing read
was an escape sequence. -/
structure JisState where
  /-- The selected set. -/
  set : JisSet
  /-- What is being read. -/
  mode : JisMode
  /-- Whether nothing was read since the last escape sequence. -/
  justSelected : Bool

/-- Reads a byte that belongs to no escape sequence. -/
def jisPlain (set : JisSet) (b : UInt8) : List Char × JisState :=
  let done (c : Char) : List Char × JisState := ([c], ⟨set, .plain, false⟩)
  if b = 0x1B then ([], ⟨set, .escape, false⟩)
  else match set with
    | .ascii => if b < 0x80 ∧ b ≠ 0x0E ∧ b ≠ 0x0F then done (byteChar b) else done replacementChar
    | .roman =>
      if b = 0x5C then done '¥'
      else if b = 0x7E then done '\u203e'
      else if b < 0x80 ∧ b ≠ 0x0E ∧ b ≠ 0x0F then done (byteChar b)
      else done replacementChar
    | .katakana => if between 0x21 0x5F b then done (halfKatakana b 0x21) else done replacementChar
    | .kanji =>
      if between 0x21 0x7E b then ([], ⟨set, .trail b, false⟩) else done replacementChar

/-- The set that an escape sequence selects by its last two bytes. -/
def jisSet? (lead b : UInt8) : Option JisSet :=
  if lead = 0x28 then
    if b = 0x42 then some .ascii
    else if b = 0x4A then some .roman
    else if b = 0x49 then some .katakana
    else none
  else if b = 0x40 ∨ b = 0x42 then some .kanji
  else none

/-- Reads one byte of ISO-2022-JP. -/
def jisStep (s : JisState) (b : UInt8) : List Char × JisState :=
  match s.mode with
  | .plain =>
    let (cs, t) := jisPlain s.set b
    (cs, { t with justSelected := s.justSelected && b == 0x1B })
  | .trail lead =>
    if b = 0x1B then ([replacementChar], ⟨s.set, .escape, s.justSelected⟩)
    else
      let c := if between 0x21 0x7E b then
          jis0208Index.get? (pairPosition 94 0x21 lead.toNat (b.toNat - 0x21))
        else none
      ([c.getD replacementChar], ⟨s.set, .plain, s.justSelected⟩)
  | .escape =>
    if b = 0x24 ∨ b = 0x28 then ([], { s with mode := .designator b })
    else
      let (cs, t) := jisPlain s.set b
      (replacementChar :: cs, t)
  | .designator lead =>
    match jisSet? lead b with
    | some set => (if s.justSelected then [replacementChar] else [], ⟨set, .plain, true⟩)
    | none =>
      let (cs, t) := jisPlain s.set lead
      match t.mode with
      | .trail _ =>
        let (ds, u) := if b = 0x1B then ([replacementChar], ⟨t.set, .escape, false⟩)
          else ([(if between 0x21 0x7E b then
              jis0208Index.get? (pairPosition 94 0x21 lead.toNat (b.toNat - 0x21))
            else none).getD replacementChar], ⟨t.set, .plain, false⟩)
        (replacementChar :: (cs ++ ds), u)
      | _ =>
        let (ds, u) := jisPlain t.set b
        (replacementChar :: (cs ++ ds), u)

/-- ISO-2022-JP. -/
def iso2022JpDecoder : Decoder JisState where
  start := ⟨.ascii, .plain, false⟩
  step := jisStep
  finish s :=
    match s.mode with
    | .plain => []
    | .trail _ | .escape => [replacementChar]
    | .designator lead =>
      let (cs, t) := jisPlain s.set lead
      replacementChar :: (cs ++ match t.mode with
        | .trail _ => [replacementChar]
        | _ => [])

/-! ## UTF-16 -/

/-- The units of UTF-16 text. A byte that is left over becomes no unit; the flag tells of it. -/
def utf16Units (bigEndian : Bool) : List UInt8 → List Nat × Bool
  | a :: b :: bs =>
    let (us, odd) := utf16Units bigEndian bs
    ((if bigEndian then a.toNat * 256 + b.toNat else b.toNat * 256 + a.toNat) :: us, odd)
  | [_] => ([], true)
  | [] => ([], false)

/-- Decodes UTF-16. A byte left over and a first surrogate right before it make one U+FFFD. -/
def decodeUtf16 (bigEndian : Bool) (bs : List UInt8) : List Char :=
  let (us, odd) := utf16Units bigEndian bs
  unitsLossy us ++
    if odd && !us.getLast?.any isHighSurrogate then [replacementChar] else []

end JavaConstants.Charset
