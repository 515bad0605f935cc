import JavaConstants.Path
import JavaConstants.Text.Quoted

/-!
# Errors in settings

Why settings cannot be loaded.
-/

namespace JavaConstants

/-- A value as an error describes it. -/
inductive FoundValue where
  | unit
  | bool (b : Bool)
  | integer (i : Int)
  /-- A floating-point number, as it is written. -/
  | float (text : String)
  | string (s : String)
  | sequence
  | map
  deriving DecidableEq, Repr

/-- The description of a value. -/
def FoundValue.message : FoundValue → String
  | unit => "unit value"
  | bool b => "boolean `" ++ (if b then "true" else "false") ++ "`"
  | integer i => "integer `" ++ toString i ++ "`"
  | float text => "floating point `" ++ text ++ "`"
  | string s => "string " ++ quoted s
  | sequence => "sequence"
  | map => "map"

/-- Why settings cannot be loaded. -/
inductive SettingsError where
  /-- The file that was named does not exist. -/
  | fileMissing (path : Path)
  /-- The file is not well-formed. -/
  | malformed
  /-- A simple value of another kind was expected under a key; the layer the value came from may be
  known. -/
  | wrongKind (found : FoundValue) (expected key : String) (origin : Option String)
  /-- A sequence, a map or a structure was expected. -/
  | wrongShape (found : FoundValue) (expected : String)
  /-- A sequence is too short for the structure it stands for. -/
  | tooShort (length : Nat) (expected : String)
  /-- A structure lacks a member. -/
  | missingMember (name : String)
  /-- A keyword is none of those known. -/
  | unknownKeyword (kind keyword : String)
  /-- A value that cannot stand for a keyword. -/
  | notKeyword (kind : String)
  deriving DecidableEq, Repr

/-- The report of an error. -/
def SettingsError.message : SettingsError → String
  | fileMissing path => "Config file not found: " ++ path.text
  | malformed => "malformed settings file"
  | wrongKind found expected key origin =>
    "invalid type: " ++ found.message ++ ", expected " ++ expected ++
      " for key `" ++ key ++ "`" ++ origin.elim "" (" in " ++ ·)
  | wrongShape found expected => "invalid type: " ++ found.message ++ ", expected " ++ expected
  | tooShort length expected => "invalid length " ++ toString length ++ ", expected " ++ expected
  | missingMember name => "missing field `" ++ name ++ "`"
  | unknownKeyword kind keyword =>
    "enum " ++ kind ++ " does not have variant constructor " ++ keyword
  | notKeyword kind =>
    "value of enum " ++ kind ++
      " should be represented by either string or table with exactly one key"

namespace SettingsError

/-- An error as it is seen from around the table that holds the value under a key. -/
def under (key : String) : SettingsError → SettingsError
  | wrongKind found expected inner origin =>
    let dot := if inner = "" ∨ inner.toList.head? = some '[' then "" else "."
    wrongKind found expected (key ++ dot ++ inner) origin
  | e => e

/-- An error as it is seen from around the sequence that holds the value at a position. -/
def atIndex (i : Nat) : SettingsError → SettingsError
  | wrongKind found expected inner origin =>
    wrongKind found expected ("[" ++ toString i ++ "]" ++ inner) origin
  | e => e

end SettingsError

end JavaConstants
