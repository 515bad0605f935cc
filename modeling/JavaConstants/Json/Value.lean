/-!
# JSON values

A JSON document. The members of an object stand in the order of their first occurrence.
-/

namespace JavaConstants.Json

/-- A JSON value. Numbers are kept as whole numbers where a document of this library needs one. -/
inductive Value where
  | null
  | bool (b : Bool)
  | number (n : Nat)
  | string (s : String)
  | array (items : List Value)
  | object (members : List (String × Value))
  deriving Inhabited

/-- Members with a value put under a key: at the key's place, or at the end. -/
def insertMember (key : String) (value : Value) :
    List (String × Value) → List (String × Value)
  | [] => [(key, value)]
  | m :: ms => if m.1 = key then (key, value) :: ms else m :: insertMember key value ms

end JavaConstants.Json
