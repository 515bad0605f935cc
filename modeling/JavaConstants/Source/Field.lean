import JavaConstants.Unicode.Blank
import JavaConstants.Unicode.Case
import JavaConstants.Source.Literal

/-!
# Constant fields

The types a generated constant can have, and the constant itself: a name, a type, a value and the
way the value is written.
-/

namespace JavaConstants

/-- The declared type of a constant. -/
inductive JavaType where
  | string
  | char
  | boolean
  | byte
  | short
  | int
  | long
  | float
  | double
  deriving DecidableEq, Repr, Inhabited

namespace JavaType

/-- The type as a declaration writes it. -/
def keyword : JavaType → String
  | string => "String"
  | char => "char"
  | boolean => "boolean"
  | byte => "byte"
  | short => "short"
  | int => "int"
  | long => "long"
  | float => "float"
  | double => "double"

/-- The type as settings write it. -/
def settingName : JavaType → String
  | string => "string"
  | ty => ty.keyword

/-- All types, in the order of their declaration. -/
def all : List JavaType := [string, char, boolean, byte, short, int, long, float, double]

/-- The type an argument of the command line names, without regard to ASCII case and to white
space around it; `bool`, `character` and `integer` are accepted as well. -/
def parse? (s : String) : Option JavaType :=
  let word := Unicode.lowerAscii (Unicode.trimBlanks s)
  if word = "character" then some char
  else if word = "bool" then some boolean
  else if word = "integer" then some int
  else all.find? (·.settingName = word)

end JavaType

/-- The way a constant's value is written. -/
inductive ValueKind where
  /-- A string literal. -/
  | text
  /-- A character literal of the value's first character. -/
  | character
  /-- The value as it stands. -/
  | verbatim
  deriving DecidableEq, Repr, Inhabited

/-- One constant of a class. -/
structure Field where
  /-- The name declared. -/
  name : String
  /-- The type declared. -/
  type : JavaType
  /-- The value, before any escaping. -/
  value : String
  /-- How the value is written. -/
  kind : ValueKind
  deriving DecidableEq, Repr, Inhabited

namespace Field

/-- A `String` constant. -/
def ofText (name value : String) : Field := ⟨name, .string, value, .text⟩

/-- The initializer of a constant. An empty value has no first character; its literal is NUL. -/
def initializer (f : Field) : String :=
  match f.kind with
  | .text => stringLiteral f.value
  | .character =>
    match f.value.toList with
    | c :: _ => charLiteral c
    | [] => "'\\u0000'"
  | .verbatim => f.value

/-- The declaration of a constant, on one line. -/
def declaration (f : Field) : String :=
  "public static final " ++ f.type.keyword ++ " " ++ f.name ++ " = " ++ f.initializer ++ ";"

end Field

end JavaConstants
