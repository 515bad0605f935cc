import JavaConstants.Unicode.RangeTable
import JavaConstants.Unicode.CaseTable

/-!
# Upper and lower case

Full case mappings of texts. A capital sigma at the end of a word becomes the final small sigma:
the nearest character before it that is not case-ignorable is cased, and the nearest one after it
is not.
-/

namespace JavaConstants.Unicode

/-- The upper-case mappings from U+0080 on. -/
def upperMap : MapTable := .ofText upperText

/-- The lower-case mappings from U+0080 on. -/
def lowerMap : MapTable := .ofText lowerText

/-- The ranges of the property Cased from U+0080 on. -/
def casedRanges : RangeTable := .ofText casedText

/-- The ranges of the property Case_Ignorable from U+0080 on. -/
def caseIgnorableRanges : RangeTable := .ofText caseIgnorableText

/-- The characters a mapping assigns to `c`, or `c` itself. -/
def mapChar (m : MapTable) (c : Char) : List Char :=
  match m.get? c.toNat with
  | some image => image.map Char.ofNat
  | none => [c]

/-- The upper-case mapping of one character. -/
def upperChar (c : Char) : List Char :=
  if c.toNat < 0x80 then [c.toUpper] else mapChar upperMap c

/-- The lower-case mapping of one character on its own. -/
def lowerChar (c : Char) : List Char :=
  if c.toNat < 0x80 then [c.toLower] else mapChar lowerMap c

/-- Whether a character has the property Cased. -/
def isCased (c : Char) : Bool :=
  if c.toNat < 0x80 then c.isAlpha else casedRanges.contains c.toNat

/-- Whether a character has the property Case_Ignorable. -/
def isCaseIgnorable (c : Char) : Bool :=
  if c.toNat < 0x80 then ['\'', '.', ':', '^', '`'].contains c
  else caseIgnorableRanges.contains c.toNat

/-- Whether the first character of a list that is not case-ignorable is cased. -/
def startsCased (cs : List Char) : Bool :=
  match cs.dropWhile isCaseIgnorable with
  | c :: _ => isCased c
  | [] => false

/-- Lower-cases a list of characters; `before` holds the characters passed so far, nearest first. -/
def lowerAfter (before : List Char) : List Char → List Char
  | [] => []
  | c :: cs =>
    (if c = 'Σ' then
      [if startsCased before && !startsCased cs then 'ς' else 'σ']
    else lowerChar c) ++ lowerAfter (c :: before) cs

/-- The upper-case mapping of a text. -/
def upper (s : String) : String := String.ofList (s.toList.flatMap upperChar)

/-- The lower-case mapping of a text. -/
def lower (s : String) : String := String.ofList (lowerAfter [] s.toList)

/-- A text with only its ASCII letters in lower case. -/
def lowerAscii (s : String) : String := String.ofList (s.toList.map Char.toLower)

end JavaConstants.Unicode
