import JavaConstants.Text.Hex
import JavaConstants.Toml.Moment

/-!
# Strings and keys of TOML

The four kinds of strings, and keys, which are strings or bare words joined by dots.
-/

namespace JavaConstants.Toml

/-- Whether a character separates the parts of a line. -/
def isBlankChar (c : Char) : Bool := c == ' ' || c == '\t'

/-- Whether a character may stand in a comment or a string: all but the control characters. -/
def isPlainChar (c : Char) : Bool := c == '\t' || (0x20 ≤ c.toNat && c.toNat ≠ 0x7F)

/-- Characters without the blanks in front. -/
def skipBlanks (cs : List Char) : List Char := cs.dropWhile isBlankChar

/-! ## Escapes -/

/-- The character with a code given in hexadecimal digits, if there is one. -/
def charOfHex? (cs : List Char) : Option Char :=
  let n := ofHexDigits cs
  if cs.all isHexDigit ∧ (n < 0xD800 ∨ 0xE000 ≤ n ∧ n < 0x110000) then some (Char.ofNat n) else none

/-- What an escape stands for, given the characters behind its backslash, and how many of them
belong to it. A backslash at the end of a line makes the line end and all blanks and line ends
behind it vanish. -/
def escape? (cs : List Char) : Option (List Char × Nat) :=
  match skipBlanks cs with
  | '\n' :: rest =>
    some ([], cs.length - (rest.dropWhile fun c ↦ isBlankChar c || c == '\n').length)
  | _ =>
    match cs with
    | 'b' :: _ => some (['\x08'], 1)
    | 't' :: _ => some (['\t'], 1)
    | 'n' :: _ => some (['\n'], 1)
    | 'f' :: _ => some (['\x0c'], 1)
    | 'r' :: _ => some (['\r'], 1)
    | '"' :: _ => some (['"'], 1)
    | '\\' :: _ => some (['\\'], 1)
    | 'u' :: rest =>
      if rest.length < 4 then none else (charOfHex? (rest.take 4)).map fun c ↦ ([c], 5)
    | 'U' :: rest =>
      if rest.length < 8 then none else (charOfHex? (rest.take 8)).map fun c ↦ ([c], 9)
    | _ => none

/-- The text behind escapes; the first `skip` characters belong to one. -/
def unescape? : (skip : Nat) → List Char → Option (List Char)
  | _, [] => some []
  | skip + 1, _ :: cs => unescape? skip cs
  | 0, c :: cs =>
    if c = '\\' then
      match escape? cs with
      | none => none
      | some (content, n) => (unescape? n cs).map (content ++ ·)
    else (unescape? 0 cs).map (c :: ·)

/-! ## Strings -/

/-- The inside of a string on one line, and the characters behind its closing quote. -/
def lineInside? (quote : Char) : (escaped : Bool) → List Char → Option (List Char × List Char)
  | _, [] => none
  | escaped, c :: cs =>
    if !escaped && c == quote then some ([], cs)
    else if isPlainChar c then
      (lineInside? quote (!escaped && c == '\\' && quote == '"') cs).map
        fun (inside, rest) ↦ (c :: inside, rest)
    else none

/-- The inside of a string over several lines, and the characters behind its three closing quotes.
Up to two more quotes in front of these belong to the inside. Line ends become line feeds. -/
def linesInside? (quote : Char) : (escaped : Bool) → List Char → Option (List Char × List Char)
  | _, [] => none
  | escaped, c :: cs =>
    if !escaped && c == quote && cs.take 2 == [quote, quote] then
      let rest := cs.drop 2
      let extra := (rest.take 2).takeWhile (· = quote)
      some (extra, rest.drop extra.length)
    else if c = '\r' then
      if cs.head? = some '\n' then linesInside? quote escaped cs else none
    else if isPlainChar c || c == '\n' then
      (linesInside? quote (!escaped && c == '\\' && quote == '"') cs).map
        fun (inside, rest) ↦ (c :: inside, rest)
    else none

/-- Characters without one line end in front. -/
def skipLineEnd : List Char → List Char
  | '\n' :: cs => cs
  | '\r' :: '\n' :: cs => cs
  | cs => cs

/-- The text of an inside, of which only the one between double quotes has escapes. -/
def insideText? (quote : Char) (inside : List Char) : Option String :=
  (if quote = '"' then unescape? 0 inside else some inside).map String.ofList

/-- A string on one line, given the characters behind its opening quote. -/
def readLineString? (quote : Char) (cs : List Char) : Option (String × List Char) := do
  let (inside, rest) ← lineInside? quote false cs
  let s ← insideText? quote inside
  some (s, rest)

/-- A string of any kind, given the characters behind its first quote. -/
def readString? (quote : Char) (cs : List Char) : Option (String × List Char) :=
  if cs.take 2 = [quote, quote] then do
    let (inside, rest) ← linesInside? quote false (skipLineEnd (cs.drop 2))
    let s ← insideText? quote inside
    some (s, rest)
  else readLineString? quote cs

/-! ## Keys -/

/-- Whether a character may stand in a bare key. -/
def isBareChar (c : Char) : Bool := c.isAlphanum || c == '_' || c == '-'

/-- One part of a key at the start of some characters. -/
def keyPart? (cs : List Char) : Option (String × List Char) :=
  match cs with
  | '"' :: rest => readLineString? '"' rest
  | '\'' :: rest => readLineString? '\'' rest
  | _ =>
    let bare := cs.takeWhile isBareChar
    if bare.isEmpty then none else some (String.ofList bare, cs.dropWhile isBareChar)

/-- The parts of a key at the start of some characters, with the blanks around it. -/
def keyParts? (cs : List Char) : Option (List String × List Char) :=
  match keyPart? (skipBlanks cs) with
  | none => none
  | some (part, rest) =>
    match skipBlanks rest with
    | '.' :: rest =>
      if rest.length < cs.length then
        (keyParts? rest).map fun (parts, rest) ↦ (part :: parts, rest)
      else none
    | rest => some ([part], rest)
termination_by cs.length

/-- The number of parts of a key, or of containers in one another, that is too many. -/
def maxDepth : Nat := 80

/-- A key at the start of some characters: the parts before its last one, and that. -/
def readKey? (cs : List Char) : Option (List String × String × List Char) := do
  let (parts, rest) ← keyParts? cs
  let last ← parts.getLast?
  if maxDepth ≤ parts.length then none else some (parts.dropLast, last, rest)

end JavaConstants.Toml
