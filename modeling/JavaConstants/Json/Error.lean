/-!
# Errors in JSON text

What is wrong with a JSON text and where. While a text is read an error says how many bytes stand
behind it; its line and column follow from the whole text.
-/

namespace JavaConstants.Json

/-- What is wrong with a JSON text. -/
inductive ErrorCause where
  | endInList
  | endInObject
  | endInString
  | endInValue
  | expectedColon
  | expectedListCommaOrEnd
  | expectedObjectCommaOrEnd
  | expectedIdent
  | expectedValue
  | invalidEscape
  | invalidNumber
  | numberOutOfRange
  | invalidCodePoint
  | controlCharacter
  | keyNotString
  | loneSurrogate
  | trailingComma
  | trailingCharacters
  | unfinishedPair
  | tooDeep
  deriving DecidableEq, Repr

/-- The words for what is wrong. -/
def ErrorCause.message : ErrorCause → String
  | endInList => "EOF while parsing a list"
  | endInObject => "EOF while parsing an object"
  | endInString => "EOF while parsing a string"
  | endInValue => "EOF while parsing a value"
  | expectedColon => "expected `:`"
  | expectedListCommaOrEnd => "expected `,` or `]`"
  | expectedObjectCommaOrEnd => "expected `,` or `\x7d`"
  | expectedIdent => "expected ident"
  | expectedValue => "expected value"
  | invalidEscape => "invalid escape"
  | invalidNumber => "invalid number"
  | numberOutOfRange => "number out of range"
  | invalidCodePoint => "invalid unicode code point"
  | controlCharacter => "control character (\\u0000-\\u001F) found while parsing a string"
  | keyNotString => "key must be a string"
  | loneSurrogate => "lone leading surrogate in hex escape"
  | trailingComma => "trailing comma"
  | trailingCharacters => "trailing characters"
  | unfinishedPair => "unexpected end of hex escape"
  | tooDeep => "recursion limit exceeded"

/-- What is wrong with a text, and the number of bytes behind the place. -/
structure Fault where
  /-- What is wrong. -/
  cause : ErrorCause
  /-- The bytes behind the place. -/
  behind : Nat
  deriving DecidableEq, Repr

/-- What is wrong with a text, with the line of the place and its column in bytes. -/
structure ParseError where
  /-- What is wrong. -/
  cause : ErrorCause
  /-- The line, from one. -/
  line : Nat
  /-- The number of bytes of the line before the place. -/
  column : Nat
  deriving DecidableEq, Repr

/-- The report of an error. -/
def ParseError.message (e : ParseError) : String :=
  e.cause.message ++ " at line " ++ toString e.line ++ " column " ++ toString e.column

/-- The place of a fault in the whole text. -/
def Fault.locate (f : Fault) (bytes : List UInt8) : ParseError :=
  let before := bytes.take (bytes.length - f.behind)
  ⟨f.cause, before.count 0x0A + 1, (before.reverse.takeWhile (· ≠ 0x0A)).length⟩

end JavaConstants.Json
