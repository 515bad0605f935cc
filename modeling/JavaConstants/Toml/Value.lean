import JavaConstants.Decimal.Double
import JavaConstants.Toml.Moment

/-!
# TOML values

A TOML document: a table whose members stand in the order in which they are defined.
-/

namespace JavaConstants.Toml

/-- A TOML value. -/
inductive Value where
  | string (s : String)
  | integer (i : Int)
  | float (x : Double)
  | boolean (b : Bool)
  | moment (m : Moment)
  | array (items : List Value)
  | table (members : List (String × Value))
  deriving Inhabited

/-- Whether a value is a table. -/
def Value.isTable : Value → Bool
  | table _ => true
  | _ => false

/-- Whether a value is an array that consists of tables, one at least. -/
def Value.isTableArray : Value → Bool
  | array items => !items.isEmpty && items.all (·.isTable)
  | _ => false

end JavaConstants.Toml
