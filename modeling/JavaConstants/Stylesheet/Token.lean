import JavaConstants.Text.Hex
import JavaConstants.Text.Position

/-!
# Stylesheet tokens

Splits a stylesheet into tokens. A token keeps its text; the name in it is read off that text when
it is needed. The lexer asks, for the character at hand and the ones behind it, what kind of token
starts there and how many of the characters behind belong to it, so the texts of the tokens always
make up the input (`flatten_tokenize`).
-/

namespace JavaConstants

namespace Stylesheet

/-- The three kinds of brackets. -/
inductive Bracket where
  | brace
  | paren
  | square
  deriving DecidableEq, Repr

/-- What a token is. -/
inductive TokenKind where
  /-- White space or a comment. -/
  | blank
  /-- A name. -/
  | ident
  /-- A name with an opening parenthesis right behind it. -/
  | function
  /-- A name with an `@` in front. -/
  | atKeyword
  /-- A name with a `#` in front. -/
  | hash
  /-- A quoted string. -/
  | string
  /-- A `url(…)` without quotes. -/
  | url
  /-- A number, with or without a unit. -/
  | number
  /-- One of `~=`, `|=`, `^=`, `$=` and `*=`. -/
  | attributeMatch
  | colon
  | semicolon
  | comma
  /-- An opening bracket. -/
  | opening (b : Bracket)
  /-- A closing bracket. -/
  | closing (b : Bracket)
  /-- A string with a line end in it. -/
  | badString
  /-- A `url(…)` with a character that cannot stand in it. -/
  | badUrl
  /-- The opening `<!--` or the closing `-->` of a comment of the surrounding document. -/
  | documentComment
  /-- Any other character. -/
  | delim (c : Char)
  deriving DecidableEq, Repr

/-- A token with its text and the position behind it. -/
structure Token where
  /-- What the token is. -/
  kind : TokenKind
  /-- The characters of the token. -/
  text : List Char
  /-- The position behind the token. -/
  stop : Position
  deriving DecidableEq, Repr

/-! ## Characters -/

/-- Whether a character ends a line. -/
def isNewline (c : Char) : Bool := c == '\n' || c == '\r' || c == '\x0c'

/-- Whether a character is white space. -/
def isSpace (c : Char) : Bool := c == ' ' || c == '\t' || isNewline c

/-- Whether a character may start a name: a letter, an underscore, NUL or anything but ASCII. -/
def isNameStart (c : Char) : Bool := c.isAlpha || c == '_' || c == '\x00' || 0x80 ≤ c.toNat

/-- Whether a character may stand in a name. -/
def isNameChar (c : Char) : Bool := isNameStart c || c.isDigit || c == '-'

/-- Whether a list starts with a line end. -/
def startsNewline (cs : List Char) : Bool := cs.head?.any isNewline

/-- Whether a list starts with a digit. -/
def startsDigit (cs : List Char) : Bool := cs.head?.any (·.isDigit)

/-- Whether a name starts with the character `c` followed by `cs`. A backslash in front of a line
end starts none on its own, but a hyphen with a backslash behind it always does. -/
def startsName (c : Char) (cs : List Char) : Bool :=
  isNameStart c || (c == '\\' && !startsNewline cs) ||
    (c == '-' && cs.head?.any fun d ↦ isNameStart d || d == '-' || d == '\\')

/-- Whether a name starts a list. -/
def beginsName : List Char → Bool
  | [] => false
  | c :: cs => startsName c cs

/-- Whether an unsigned number starts with the character `c` followed by `cs`. -/
def startsNumber (c : Char) (cs : List Char) : Bool :=
  c.isDigit || (c == '.' && startsDigit cs)

/-! ## Lengths

Each function counts the characters of one construct at the start of a list. -/

/-- The length of one line end or one blank at the start, or zero. -/
def spaceLength : List Char → Nat
  | '\r' :: '\n' :: _ => 2
  | c :: _ => if isSpace c then 1 else 0
  | [] => 0

/-- The number of hexadecimal digits at the start, `most` of them at the most. -/
def hexLength : (most : Nat) → List Char → Nat
  | most + 1, c :: cs => if isHexDigit c then 1 + hexLength most cs else 0
  | _, _ => 0

/-- The length of an escape behind its backslash: up to six hexadecimal digits and one blank, or
any other character. -/
def escapeLength (cs : List Char) : Nat :=
  match hexLength 6 cs with
  | 0 => min 1 cs.length
  | n => n + spaceLength (cs.drop n)

/-- The length of a name; the first `skip` characters belong to it in any case. -/
def nameLength : (skip : Nat) → List Char → Nat
  | _, [] => 0
  | skip + 1, _ :: cs => 1 + nameLength skip cs
  | 0, c :: cs =>
    if isNameChar c then 1 + nameLength 0 cs
    else if c == '\\' && !startsNewline cs then 1 + nameLength (escapeLength cs) cs
    else 0

/-- The length of a string behind its opening quote, up to and with the closing one, and whether
it is cut short by a line end. -/
def stringLength (quote : Char) : (skip : Nat) → List Char → Nat × Bool
  | _, [] => (0, false)
  | skip + 1, _ :: cs => let (n, bad) := stringLength quote skip cs; (1 + n, bad)
  | 0, c :: cs =>
    if c = quote then (1, false)
    else if isNewline c then (0, true)
    else
      let skip := if c = '\\' then
        (if startsNewline cs then spaceLength cs else escapeLength cs) else 0
      let (n, bad) := stringLength quote skip cs
      (1 + n, bad)

/-- The length of a comment behind its opening mark, the closing mark included. -/
def commentLength : List Char → Nat
  | '*' :: '/' :: _ => 2
  | _ :: cs => 1 + commentLength cs
  | [] => 0

/-- The length of digits at the start. -/
def digitsLength (cs : List Char) : Nat := (cs.takeWhile (·.isDigit)).length

/-- The length of the exponent of a number, or zero. -/
def exponentLength : List Char → Nat
  | e :: sign :: cs =>
    if e = 'e' ∨ e = 'E' then
      if sign.isDigit then 1 + digitsLength (sign :: cs)
      else if (sign = '+' ∨ sign = '-') ∧ startsDigit cs then 2 + digitsLength cs
      else 0
    else 0
  | _ => 0

/-- The length of the fraction of a number, or zero. -/
def fractionLength : List Char → Nat
  | '.' :: cs => if startsDigit cs then 1 + digitsLength cs else 0
  | _ => 0

/-- The length of a number with its percent sign or its unit. -/
def numberLength (cs : List Char) : Nat :=
  let whole := digitsLength cs
  let fraction := fractionLength (cs.drop whole)
  let exponent := exponentLength (cs.drop (whole + fraction))
  let n := whole + fraction + exponent
  match cs.drop n with
  | '%' :: _ => n + 1
  | rest => if beginsName rest then n + nameLength 0 rest else n

/-- The length of what is left of a broken `url(…)`, its closing parenthesis included. -/
def badUrlLength : (skip : Nat) → List Char → Nat
  | _, [] => 0
  | skip + 1, _ :: cs => 1 + badUrlLength skip cs
  | 0, c :: cs =>
    if c = ')' then 1
    else
      let escaped := c = '\\' ∧ (cs.head? = some ')' ∨ cs.head? = some '\\')
      1 + badUrlLength (if escaped then 1 else 0) cs

/-- The length of the white space at the end of a `url(…)` with its closing parenthesis, and
whether something else stands there. -/
def urlEndLength : List Char → Nat × Bool
  | [] => (0, false)
  | c :: cs =>
    if c = ')' then (1, false)
    else if isSpace c then let (n, bad) := urlEndLength cs; (1 + n, bad)
    else (1 + badUrlLength 0 cs, true)

/-- Whether a character cannot stand in a `url(…)` without quotes. -/
def breaksUrl (c : Char) : Bool :=
  let n := c.toNat
  (1 ≤ n && n ≤ 8) || n == 0x0B || (0x0E ≤ n && n ≤ 0x1F) || n == 0x7F ||
    c == '"' || c == '\'' || c == '('

/-- The length of a `url(…)` behind its first character that is not white space, and whether it is
broken. -/
def urlBodyLength : (skip : Nat) → List Char → Nat × Bool
  | _, [] => (0, false)
  | skip + 1, _ :: cs => let (n, bad) := urlBodyLength skip cs; (1 + n, bad)
  | 0, c :: cs =>
    if c = ')' then (1, false)
    else if isSpace c then urlEndLength (c :: cs)
    else if breaksUrl c then (1 + badUrlLength 0 cs, true)
    else if c = '\\' then
      if startsNewline cs then (1 + badUrlLength 0 cs, true)
      else let (n, bad) := urlBodyLength (escapeLength cs) cs; (1 + n, bad)
    else let (n, bad) := urlBodyLength 0 cs; (1 + n, bad)

/-- The length of a `url(…)` behind its opening parenthesis and whether it is broken; none where a
quoted string follows. -/
def urlLength? (cs : List Char) : Option (Nat × Bool) :=
  let space := (cs.takeWhile isSpace).length
  match cs.drop space with
  | '"' :: _ => none
  | '\'' :: _ => none
  | rest => let (n, bad) := urlBodyLength 0 rest; some (space + n, bad)

/-! ## Names -/

/-- The character an escape denotes, given its text behind the backslash. -/
def decodeEscape (cs : List Char) : Char :=
  match hexLength 6 cs with
  | 0 => match cs with
    | [] => '\ufffd'
    | c :: _ => if c = '\x00' then '\ufffd' else c
  | n =>
    let code := ofHexDigits (cs.take n)
    if code.isValidChar ∧ code ≠ 0 then Char.ofNat code else '\ufffd'

/-- The name spelled by some characters; the first `skip` of them are passed over. -/
def decodeName : (skip : Nat) → List Char → List Char
  | _, [] => []
  | skip + 1, _ :: cs => decodeName skip cs
  | 0, c :: cs =>
    if c = '\\' then decodeEscape cs :: decodeName (escapeLength cs) cs
    else (if c = '\x00' then '\ufffd' else c) :: decodeName 0 cs

/-- The name in a token: of a function without its parenthesis, of a keyword without its mark. -/
def Token.name (t : Token) : List Char :=
  match t.kind with
  | .function => decodeName 0 t.text.dropLast
  | .atKeyword | .hash => decodeName 0 (t.text.drop 1)
  | _ => decodeName 0 t.text

/-! ## The lexer -/

/-- Whether a name is `url`, without regard to case. -/
def isUrlName (name : List Char) : Bool := name.map Char.toLower == ['u', 'r', 'l']

/-- The kind of a token that starts with a name, and its length without the first character. -/
def scanName (c : Char) (cs : List Char) : TokenKind × Nat :=
  let n := nameLength 0 (c :: cs) - 1
  match cs.drop n with
  | '(' :: rest =>
    if isUrlName (decodeName 0 (c :: cs.take n)) then
      match urlLength? rest with
      | some (m, bad) => (if bad then .badUrl else .url, n + 1 + m)
      | none => (.function, n + 1)
    else (.function, n + 1)
  | _ => (.ident, n)

/-- The kind of a two-character match operator, or else of the character alone. -/
def scanMatch (c : Char) : List Char → TokenKind × Nat
  | '=' :: _ => (.attributeMatch, 1)
  | _ => (.delim c, 0)

/-- The kind of the token that starts with `c`, and how many characters of `cs` belong to it. -/
def scanToken (c : Char) (cs : List Char) : TokenKind × Nat :=
  if isSpace c then (.blank, (cs.takeWhile isSpace).length)
  else if c = '"' ∨ c = '\'' then
    let (n, bad) := stringLength c 0 cs
    (if bad then .badString else .string, n)
  else if startsNumber c cs ∨ ((c = '+' ∨ c = '-') ∧ (startsDigit cs ∨
      (cs.head? = some '.' ∧ startsDigit (cs.drop 1)))) then
    (.number, if c = '+' ∨ c = '-' then numberLength cs else numberLength (c :: cs) - 1)
  else if c = '-' ∧ cs.take 2 = ['-', '>'] then (.documentComment, 2)
  else if startsName c cs then scanName c cs
  else match c with
    | '#' =>
      if beginsName cs ∨ startsDigit cs ∨ cs.head? = some '-' then (.hash, nameLength 0 cs)
      else (.delim c, 0)
    | '@' => if beginsName cs then (.atKeyword, nameLength 0 cs) else (.delim c, 0)
    | '/' => match cs with
      | '*' :: rest => (.blank, 1 + commentLength rest)
      | _ => (.delim c, 0)
    | '<' => if cs.take 3 = ['!', '-', '-'] then (.documentComment, 3) else (.delim c, 0)
    | '~' | '|' | '^' | '$' | '*' => scanMatch c cs
    | ':' => (.colon, 0)
    | ';' => (.semicolon, 0)
    | ',' => (.comma, 0)
    | '{' => (.opening .brace, 0)
    | '}' => (.closing .brace, 0)
    | '(' => (.opening .paren, 0)
    | ')' => (.closing .paren, 0)
    | '[' => (.opening .square, 0)
    | ']' => (.closing .square, 0)
    | _ => (.delim c, 0)

/-- The tokens of a stylesheet that begins at a position. -/
def tokenize (p : Position) : List Char → List Token
  | [] => []
  | c :: cs =>
    let (kind, n) := scanToken c cs
    let text := c :: cs.take n
    let stop := p.advance text
    ⟨kind, text, stop⟩ :: tokenize stop (cs.drop n)
termination_by cs => cs.length
decreasing_by simp only [List.length_drop, List.length_cons]; omega

/-- The texts of the tokens make up the stylesheet. -/
theorem flatten_tokenize (p : Position) (cs : List Char) :
    ((tokenize p cs).map (·.text)).flatten = cs := by
  fun_induction tokenize p cs with
  | case1 => rfl
  | case2 p c cs _ n _ text _ ih => simp [ih, text]

end Stylesheet

end JavaConstants
