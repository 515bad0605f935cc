import JavaConstants.Text.Hex

/-!
# Literals

String and character literals of generated source. Every character stands for itself, except
that controls, the backslash and the literal's own quote are escaped.
-/

namespace JavaConstants

/-- Whether a character is a control. -/
def isControl (c : Char) : Bool := c.toNat < 0x20 || (0x7F ≤ c.toNat && c.toNat < 0xA0)

/-- The spelling of one character in a literal delimited by `quote`. -/
def escapeChar (quote c : Char) : List Char :=
  if c = '\x08' then ['\\', 'b']
  else if c = '\t' then ['\\', 't']
  else if c = '\n' then ['\\', 'n']
  else if c = '\x0c' then ['\\', 'f']
  else if c = '\r' then ['\\', 'r']
  else if c = '\\' then ['\\', '\\']
  else if c = quote then ['\\', c]
  else if isControl c then '\\' :: 'u' :: lowerHex4 c.toNat
  else [c]

/-- The characters of a string literal for a list of characters. -/
def stringLiteralChars (cs : List Char) : List Char :=
  '"' :: cs.flatMap (escapeChar '"') ++ ['"']

/-- The characters of a character literal. -/
def charLiteralChars (c : Char) : List Char := '\'' :: escapeChar '\'' c ++ ['\'']

/-- The string literal that denotes a text. -/
def stringLiteral (s : String) : String := String.ofList (stringLiteralChars s.toList)

/-- The character literal that denotes a character of the Basic Multilingual Plane. -/
def charLiteral (c : Char) : String := String.ofList (charLiteralChars c)

example : stringLiteral "a\"b\\\n\x01'" = "\"a\\\"b\\\\\\n\\u0001'\"" := by decide

example : charLiteral '\'' = "'\\''" := by decide

end JavaConstants
