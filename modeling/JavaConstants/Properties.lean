import JavaConstants.Text.Hex
import JavaConstants.Text.Units

/-!
# Properties files

Reads the text of a `.properties` file: natural lines are joined to logical lines, each logical
line is split into a key and a value, and the escapes in both are decoded. The keys stand in the
order of their first occurrence; the last value of a key counts.
-/

namespace JavaConstants

namespace Properties

/-- A `\u` without four hexadecimal digits, in the logical line that begins at a line. -/
structure MalformedEscape where
  /-- The first natural line of the logical line, from one. -/
  line : Nat
  deriving DecidableEq, Repr

/-- The report of an error. -/
def MalformedEscape.message (e : MalformedEscape) : String :=
  "line " ++ toString e.line ++ ": malformed \\uxxxx encoding"

/-- Whether a character separates words: a blank, a tab or a form feed. -/
def isSpace (c : Char) : Bool := c == ' ' || c == '\t' || c == '\x0c'

/-! ## Lines -/

/-- Line ends of all kinds as line feeds. -/
def normalizeNewlines : List Char → List Char
  | [] => []
  | '\r' :: '\n' :: cs => '\n' :: normalizeNewlines cs
  | c :: cs => (if c = '\r' then '\n' else c) :: normalizeNewlines cs

/-- Whether a natural line is blank or a comment, its leading white space removed. -/
def isSilent : List Char → Bool
  | [] => true
  | c :: _ => c == '#' || c == '!'

/-- Whether a line is continued: it ends in an odd number of backslashes. -/
def isContinued (line : List Char) : Bool := (line.reverse.takeWhile (· == '\\')).length % 2 == 1

/-- The logical lines of some natural lines, the first of which has a number. `begun` is the logical
line that the next natural line continues, with the number it began at. -/
def logicalLines (number : Nat) :
    (begun : Option (Nat × List Char)) → List (List Char) → List (Nat × List Char)
  | none, [] => []
  | some line, [] => [line]
  | none, line :: lines =>
    let text := line.dropWhile isSpace
    if isSilent text then logicalLines (number + 1) none lines
    else if isContinued text then logicalLines (number + 1) (some (number, text.dropLast)) lines
    else (number, text) :: logicalLines (number + 1) none lines
  | some (start, text), line :: lines =>
    let text := text ++ line.dropWhile isSpace
    if isContinued text then logicalLines (number + 1) (some (start, text.dropLast)) lines
    else (start, text) :: logicalLines (number + 1) none lines

/-! ## Key and value -/

/-- Whether a character separates a key from its value beside white space. -/
def isSeparator (c : Char) : Bool := c == '=' || c == ':'

/-- Splits a logical line behind its key: the key, the separating character and the rest. An
escaped character never separates. -/
def splitKey : List Char → List Char × Option Char × List Char
  | [] => ([], none, [])
  | '\\' :: c :: cs =>
    let (key, separator, rest) := splitKey cs
    ('\\' :: c :: key, separator, rest)
  | c :: cs =>
    if isSeparator c || isSpace c then ([], some c, cs)
    else
      let (key, separator, rest) := splitKey cs
      (c :: key, separator, rest)

/-- The key and the value of a logical line, both still escaped. White space around one separator
belongs to neither. -/
def splitEntry (line : List Char) : List Char × List Char :=
  let (key, separator, rest) := splitKey line
  let rest := rest.dropWhile isSpace
  if separator.any isSeparator then (key, rest)
  else match rest with
    | c :: cs => if isSeparator c then (key, cs.dropWhile isSpace) else (key, rest)
    | [] => (key, [])

/-! ## Escapes -/

/-- What is left of a first surrogate whose second one did not come. -/
def flush (high : Option Nat) : List Char := if high.isSome then ['\ufffd'] else []

/-- The control character a letter stands for behind a backslash; any other character stands for
itself. -/
def controlFor (c : Char) : Char :=
  if c = 't' then '\t' else if c = 'n' then '\n' else if c = 'r' then '\r'
  else if c = 'f' then '\x0c' else c

/-- Decodes escapes; `high` is a first surrogate right before. None where a `\u` is malformed. -/
def unescapeAfter (high : Option Nat) : List Char → Option (List Char)
  | [] => some (flush high)
  | ['\\'] => some (flush high)
  | '\\' :: 'u' :: cs =>
    match cs with
    | a :: b :: c :: d :: rest =>
      if [a, b, c, d].all isHexDigit then
        let unit := ofHexDigits [a, b, c, d]
        if isHighSurrogate unit then (unescapeAfter (some unit) rest).map (flush high ++ ·)
        else if isLowSurrogate unit then
          (unescapeAfter none rest).map ((match high with
            | some h => pairChar h unit
            | none => '\ufffd') :: ·)
        else (unescapeAfter none rest).map (flush high ++ Char.ofNat unit :: ·)
      else none
    | _ => none
  | '\\' :: c :: cs => (unescapeAfter none cs).map (flush high ++ controlFor c :: ·)
  | c :: cs => (unescapeAfter none cs).map (flush high ++ c :: ·)

/-- Decodes the escapes of a key or a value. -/
def unescape? (cs : List Char) : Option (List Char) := unescapeAfter none cs

/-! ## Entries -/

/-- Entries with a value put under a key: at the key's place, or at the end. -/
def insertEntry (key value : String) : List (String × String) → List (String × String)
  | [] => [(key, value)]
  | e :: es => if e.1 = key then (key, value) :: es else e :: insertEntry key value es

/-- The entry of a logical line. -/
def readEntry (line : Nat × List Char) : Except MalformedEscape (String × String) :=
  let (key, value) := splitEntry line.2
  match unescape? key, unescape? value with
  | some k, some v => .ok (String.ofList k, String.ofList v)
  | _, _ => .error ⟨line.1⟩

/-- The entries of a properties text. -/
def parse (text : String) : Except MalformedEscape (List (String × String)) := do
  let lines := logicalLines 1 none ((normalizeNewlines text.toList).splitOn '\n')
  let entries ← lines.mapM readEntry
  .ok (entries.foldl (fun es (k, v) ↦ insertEntry k v es) [])

end Properties

end JavaConstants
