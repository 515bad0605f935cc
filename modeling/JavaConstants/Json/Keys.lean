import JavaConstants.Json.Value

/-!
# Keys of a document

Which keys of a JSON object are written as constants: the keys of the object itself and, if asked
for, those of objects that are reached through arrays only. An object that is directly the value of
a key is not entered.
-/

namespace JavaConstants

/-- How far the keys of a JSON document are followed. -/
structure JsonOptions where
  /-- Whether objects in arrays are entered. -/
  recursive : Bool := false
  /-- Whether arrays are entered. -/
  writeArray : Bool := true
  deriving DecidableEq, Repr

namespace Json

mutual

/-- The keys found in the value of a member: in an array only. -/
def keysOfMember (o : JsonOptions) : Value → List String
  | .array items => if o.writeArray then keysOfItems o items else []
  | _ => []

/-- The keys found in an item of an array. -/
def keysOfItem (o : JsonOptions) : Value → List String
  | .object members => if o.recursive then keysOfMembers o members else []
  | .array items => if o.writeArray then keysOfItems o items else []
  | _ => []

/-- The keys found in the items of an array. -/
def keysOfItems (o : JsonOptions) : List Value → List String
  | [] => []
  | item :: items => keysOfItem o item ++ keysOfItems o items

/-- The keys of an object, each followed by those found in its value. -/
def keysOfMembers (o : JsonOptions) : List (String × Value) → List String
  | [] => []
  | (key, value) :: members => key :: (keysOfMember o value ++ keysOfMembers o members)

end

end Json

end JavaConstants
