import JavaConstants.Decimal.Basic
import JavaConstants.Json.Value
import JavaConstants.Text.Hex

/-!
# Writing JSON

Documents on one line, and documents with each item and member on a line of its own.
-/

namespace JavaConstants.Json

/-- The spelling of a character in a string. -/
def escapeChar (c : Char) : List Char :=
  if c = '"' then ['\\', '"']
  else if c = '\\' then ['\\', '\\']
  else if c = '\x08' then ['\\', 'b']
  else if c = '\x0c' then ['\\', 'f']
  else if c = '\n' then ['\\', 'n']
  else if c = '\r' then ['\\', 'r']
  else if c = '\t' then ['\\', 't']
  else if c.toNat < 0x20 then '\\' :: 'u' :: lowerHex4 c.toNat
  else [c]

/-- A string as it is written. -/
def quoted (s : String) : String := "\"" ++ String.ofList (s.toList.flatMap escapeChar) ++ "\""

/-- A value that holds no others, as it is written. -/
def scalar : Value → String
  | .null => "null"
  | .bool b => if b then "true" else "false"
  | .number n => String.ofList (digitChars n)
  | .string s => quoted s
  | .array _ => "[]"
  | .object _ => "\x7b\x7d"

/-- A line end with the blanks of a nesting depth behind it. -/
def newline (depth : Nat) : String := "\n" ++ String.ofList (List.replicate (2 * depth) ' ')

mutual

/-- A document on several lines, from a nesting depth on. -/
def prettyAt (depth : Nat) : Value → String
  | .array (item :: items) =>
    "[" ++ newline (depth + 1) ++ prettyAt (depth + 1) item ++ prettyItems (depth + 1) items ++
      newline depth ++ "]"
  | .object ((key, value) :: members) =>
    "\x7b" ++ newline (depth + 1) ++ quoted key ++ ": " ++ prettyAt (depth + 1) value ++
      prettyMembers (depth + 1) members ++ newline depth ++ "\x7d"
  | v => scalar v

/-- Further items of an array. -/
def prettyItems (depth : Nat) : List Value → String
  | [] => ""
  | item :: items => "," ++ newline depth ++ prettyAt depth item ++ prettyItems depth items

/-- Further members of an object. -/
def prettyMembers (depth : Nat) : List (String × Value) → String
  | [] => ""
  | (key, value) :: members =>
    "," ++ newline depth ++ quoted key ++ ": " ++ prettyAt depth value ++
      prettyMembers depth members

end

/-- A document on several lines. -/
def pretty (v : Value) : String := prettyAt 0 v

mutual

/-- A document on one line. -/
def compact : Value → String
  | .array (item :: items) => "[" ++ compact item ++ compactItems items ++ "]"
  | .object ((key, value) :: members) =>
    "\x7b" ++ quoted key ++ ":" ++ compact value ++ compactMembers members ++ "\x7d"
  | v => scalar v

/-- Further items of an array on one line. -/
def compactItems : List Value → String
  | [] => ""
  | item :: items => "," ++ compact item ++ compactItems items

/-- Further members of an object on one line. -/
def compactMembers : List (String × Value) → String
  | [] => ""
  | (key, value) :: members => "," ++ quoted key ++ ":" ++ compact value ++ compactMembers members

end

end JavaConstants.Json
