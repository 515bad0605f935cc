import JavaConstants.Charset.Decoder
import JavaConstants.Charset.SingleByteTable
import JavaConstants.Text.Utf8
import JavaConstants.Unicode.Blank
import JavaConstants.Unicode.Case

/-!
# Charsets

How the bytes of a text file are read as characters, and the labels that name a charset. A byte
order mark at the start of the bytes overrides the charset that was asked for.
-/

namespace JavaConstants

/-- A way to read bytes as characters. -/
inductive Charset where
  | utf8
  | utf16 (bigEndian : Bool)
  /-- One byte to a character, with an index for the bytes from 0x80 on. -/
  | singleByte (upper : Charset.Index)
  | windows1252
  | gb18030
  | big5
  | eucJp
  | iso2022Jp
  | shiftJis
  | eucKr
  /-- Reads no text: all bytes together make one U+FFFD. -/
  | replacement
  /-- Puts the bytes from 0x80 on at U+F780. -/
  | userDefined

namespace Charset

/-! ## Single bytes -/

/-- IBM866. -/
def ibm866 : Index := .ofText ibm866Text

/-- ISO-8859-2. -/
def iso8859x2 : Index := .ofText iso8859x2Text

/-- ISO-8859-3. -/
def iso8859x3 : Index := .ofText iso8859x3Text

/-- ISO-8859-4. -/
def iso8859x4 : Index := .ofText iso8859x4Text

/-- ISO-8859-5. -/
def iso8859x5 : Index := .ofText iso8859x5Text

/-- ISO-8859-6. -/
def iso8859x6 : Index := .ofText iso8859x6Text

/-- ISO-8859-7. -/
def iso8859x7 : Index := .ofText iso8859x7Text

/-- ISO-8859-8. -/
def iso8859x8 : Index := .ofText iso8859x8Text

/-- ISO-8859-10. -/
def iso8859x10 : Index := .ofText iso8859x10Text

/-- ISO-8859-13. -/
def iso8859x13 : Index := .ofText iso8859x13Text

/-- ISO-8859-14. -/
def iso8859x14 : Index := .ofText iso8859x14Text

/-- ISO-8859-15. -/
def iso8859x15 : Index := .ofText iso8859x15Text

/-- ISO-8859-16. -/
def iso8859x16 : Index := .ofText iso8859x16Text

/-- KOI8-R. -/
def koi8r : Index := .ofText koi8rText

/-- KOI8-U. -/
def koi8u : Index := .ofText koi8uText

/-- Macintosh. -/
def macintosh : Index := .ofText macintoshText

/-- windows-874. -/
def windows874 : Index := .ofText windows874Text

/-- windows-1250. -/
def windows1250 : Index := .ofText windows1250Text

/-- windows-1251. -/
def windows1251 : Index := .ofText windows1251Text

/-- windows-1253. -/
def windows1253 : Index := .ofText windows1253Text

/-- windows-1254. -/
def windows1254 : Index := .ofText windows1254Text

/-- windows-1255. -/
def windows1255 : Index := .ofText windows1255Text

/-- windows-1256. -/
def windows1256 : Index := .ofText windows1256Text

/-- windows-1257. -/
def windows1257 : Index := .ofText windows1257Text

/-- windows-1258. -/
def windows1258 : Index := .ofText windows1258Text

/-- Macintosh Cyrillic. -/
def macCyrillic : Index := .ofText macCyrillicText

/-- The characters of the bytes from 0x80 to 0x9F in windows-1252. -/
def windows1252Controls : List Char := [
  '\u20ac', '\u0081', '\u201a', '\u0192', '\u201e', '\u2026', '\u2020', '\u2021',
  '\u02c6', '\u2030', '\u0160', '\u2039', '\u0152', '\u008d', '\u017d', '\u008f',
  '\u0090', '\u2018', '\u2019', '\u201c', '\u201d', '\u2022', '\u2013', '\u2014',
  '\u02dc', '\u2122', '\u0161', '\u203a', '\u0153', '\u009d', '\u017e', '\u0178']

/-- The character of a byte in windows-1252: outside of the controls, the one with its value. -/
def windows1252Char (b : UInt8) : Char :=
  if between 0x80 0x9F b then windows1252Controls.getD (b.toNat - 0x80) replacementChar
  else byteChar b

/-- The character of a byte in a charset that writes ASCII as it is. -/
def singleByteChar (upper : Nat → Option Char) (b : UInt8) : Char :=
  if b < 0x80 then byteChar b else (upper (b.toNat - 0x80)).getD replacementChar

/-! ## Decoding -/

/-- Decodes bytes that start with no byte order mark. -/
def decodeUnmarked (c : Charset) (bs : List UInt8) : List Char :=
  match c with
  | .utf8 => utf8Lossy 0 bs
  | .utf16 bigEndian => decodeUtf16 bigEndian bs
  | .singleByte upper => bs.map (singleByteChar upper.get?)
  | .windows1252 => bs.map windows1252Char
  | .gb18030 => gb18030Decoder.run gb18030Decoder.start bs
  | .big5 => big5Decoder.run big5Decoder.start bs
  | .eucJp => eucJpDecoder.run eucJpDecoder.start bs
  | .iso2022Jp => iso2022JpDecoder.run iso2022JpDecoder.start bs
  | .shiftJis => shiftJisDecoder.run shiftJisDecoder.start bs
  | .eucKr => eucKrDecoder.run eucKrDecoder.start bs
  | .replacement => if bs.isEmpty then [] else [replacementChar]
  | .userDefined => bs.map (singleByteChar fun n ↦ some (Char.ofNat (0xF780 + n)))

/-- Decodes bytes. A byte order mark decides the charset and is dropped. -/
def decode (c : Charset) (bs : List UInt8) : List Char :=
  match bs with
  | 0xEF :: 0xBB :: 0xBF :: rest => decodeUnmarked .utf8 rest
  | 0xFF :: 0xFE :: rest => decodeUnmarked (.utf16 false) rest
  | 0xFE :: 0xFF :: rest => decodeUnmarked (.utf16 true) rest
  | _ => decodeUnmarked c bs

/-! ## Labels -/

/-- The labels of each charset, with blanks between them. -/
def labels : List (String × Charset) := [
  ("unicode-1-1-utf-8 unicode11utf8 unicode20utf8 utf-8 utf8 x-unicode20utf8",
    .utf8),
  ("866 cp866 csibm866 ibm866",
    .singleByte ibm866),
  ("csisolatin2 iso-8859-2 iso-ir-101 iso8859-2 iso88592 iso_8859-2 iso_8859-2:1987 l2 " ++
    "latin2",
    .singleByte iso8859x2),
  ("csisolatin3 iso-8859-3 iso-ir-109 iso8859-3 iso88593 iso_8859-3 iso_8859-3:1988 l3 " ++
    "latin3",
    .singleByte iso8859x3),
  ("csisolatin4 iso-8859-4 iso-ir-110 iso8859-4 iso88594 iso_8859-4 iso_8859-4:1988 l4 " ++
    "latin4",
    .singleByte iso8859x4),
  ("csisolatincyrillic cyrillic iso-8859-5 iso-ir-144 iso8859-5 iso88595 iso_8859-5 " ++
    "iso_8859-5:1988",
    .singleByte iso8859x5),
  ("arabic asmo-708 csiso88596e csiso88596i csisolatinarabic ecma-114 iso-8859-6 " ++
    "iso-8859-6-e iso-8859-6-i iso-ir-127 iso8859-6 iso88596 iso_8859-6 iso_8859-6:1987",
    .singleByte iso8859x6),
  ("csisolatingreek ecma-118 elot_928 greek greek8 iso-8859-7 iso-ir-126 iso8859-7 iso88597 " ++
    "iso_8859-7 iso_8859-7:1987 sun_eu_greek",
    .singleByte iso8859x7),
  ("csiso88598e csisolatinhebrew hebrew iso-8859-8 iso-8859-8-e iso-ir-138 iso8859-8 " ++
    "iso88598 iso_8859-8 iso_8859-8:1988 visual csiso88598i iso-8859-8-i logical",
    .singleByte iso8859x8),
  ("csisolatin6 iso-8859-10 iso-ir-157 iso8859-10 iso885910 l6 latin6",
    .singleByte iso8859x10),
  ("iso-8859-13 iso8859-13 iso885913",
    .singleByte iso8859x13),
  ("iso-8859-14 iso8859-14 iso885914",
    .singleByte iso8859x14),
  ("csisolatin9 iso-8859-15 iso8859-15 iso885915 iso_8859-15 l9",
    .singleByte iso8859x15),
  ("iso-8859-16",
    .singleByte iso8859x16),
  ("cskoi8r koi koi8 koi8-r koi8_r",
    .singleByte koi8r),
  ("koi8-ru koi8-u",
    .singleByte koi8u),
  ("csmacintosh mac macintosh x-mac-roman",
    .singleByte macintosh),
  ("dos-874 iso-8859-11 iso8859-11 iso885911 tis-620 windows-874",
    .singleByte windows874),
  ("cp1250 windows-1250 x-cp1250",
    .singleByte windows1250),
  ("cp1251 windows-1251 x-cp1251",
    .singleByte windows1251),
  ("ansi_x3.4-1968 ascii cp1252 cp819 csisolatin1 ibm819 iso-8859-1 iso-ir-100 iso8859-1 " ++
    "iso88591 iso_8859-1 iso_8859-1:1987 l1 latin1 us-ascii windows-1252 x-cp1252",
    .windows1252),
  ("cp1253 windows-1253 x-cp1253",
    .singleByte windows1253),
  ("cp1254 csisolatin5 iso-8859-9 iso-ir-148 iso8859-9 iso88599 iso_8859-9 iso_8859-9:1989 " ++
    "l5 latin5 windows-1254 x-cp1254",
    .singleByte windows1254),
  ("cp1255 windows-1255 x-cp1255",
    .singleByte windows1255),
  ("cp1256 windows-1256 x-cp1256",
    .singleByte windows1256),
  ("cp1257 windows-1257 x-cp1257",
    .singleByte windows1257),
  ("cp1258 windows-1258 x-cp1258",
    .singleByte windows1258),
  ("x-mac-cyrillic x-mac-ukrainian",
    .singleByte macCyrillic),
  ("chinese csgb2312 csiso58gb231280 gb2312 gb_2312 gb_2312-80 gbk iso-ir-58 x-gbk gb18030",
    .gb18030),
  ("big5 big5-hkscs cn-big5 csbig5 x-x-big5",
    .big5),
  ("cseucpkdfmtjapanese euc-jp x-euc-jp",
    .eucJp),
  ("csiso2022jp iso-2022-jp",
    .iso2022Jp),
  ("csshiftjis ms932 ms_kanji shift-jis shift_jis sjis windows-31j x-sjis",
    .shiftJis),
  ("cseuckr csksc56011987 euc-kr iso-ir-149 korean ks_c_5601-1987 ks_c_5601-1989 ksc5601 " ++
    "ksc_5601 windows-949",
    .eucKr),
  ("csiso2022kr hz-gb-2312 iso-2022-cn iso-2022-cn-ext iso-2022-kr replacement",
    .replacement),
  ("unicodefffe utf-16be",
    .utf16 true),
  ("csunicode iso-10646-ucs-2 ucs-2 unicode unicodefeff utf-16 utf-16le",
    .utf16 false),
  ("x-user-defined",
    .userDefined)]

/-- Whether a character is white space around a label. -/
def isLabelSpace (c : Char) : Bool := [' ', '\t', '\n', '\x0c', '\r'].contains c

/-- The charset a label names, without regard to ASCII case and to white space around it. -/
def ofLabel? (label : String) : Option Charset :=
  let word := (Unicode.trimWhere isLabelSpace label.toList).map Char.toLower
  (labels.find? fun (ls, _) ↦ (ls.toList.splitOn ' ').contains word).map (·.2)

end Charset

end JavaConstants
