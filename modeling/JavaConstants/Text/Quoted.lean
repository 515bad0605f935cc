import JavaConstants.Text.Hex
import JavaConstants.Unicode.Printable

/-!
# Quoted texts

Texts as logs and error messages quote them: between double quotes, with escapes for the quote, the
backslash and every character without a shape of its own.
-/

namespace JavaConstants

/-- The lower-case hexadecimal digits of a number, without zeros in front. -/
def lowerHex (n : Nat) : List Char := Nat.toDigits 16 n

/-- The spelling of a character in a quoted text. -/
def quotedChar (c : Char) : List Char :=
  if c = '\x00' then ['\\', '0']
  else if c = '\t' then ['\\', 't']
  else if c = '\n' then ['\\', 'n']
  else if c = '\r' then ['\\', 'r']
  else if c = '"' then ['\\', '"']
  else if c = '\\' then ['\\', '\\']
  else if Unicode.isPrintable c && !Unicode.isGraphemeExtend c then [c]
  else ['\\', 'u', '{'] ++ lowerHex c.toNat ++ ['}']

/-- A text between double quotes. -/
def quoted (s : String) : String := "\"" ++ String.ofList (s.toList.flatMap quotedChar) ++ "\""

/-- A text between double quotes in which apostrophes are escaped as well, as paths are quoted. -/
def quotedPath (s : String) : String :=
  let inside := s.toList.flatMap fun c ↦ if c = '\'' then ['\\', '\''] else quotedChar c
  "\"" ++ String.ofList inside ++ "\""

end JavaConstants
