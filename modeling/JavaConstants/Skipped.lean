/-!
# Skipped names

Names that did not make it into the generated class. Leaving one out is never an error; each is
recorded with the class it was meant for.
-/

namespace JavaConstants

/-- Why a name was left out. -/
inductive SkipReason where
  /-- There is no identifier for the name. -/
  | unsanitizable
  /-- The class has a constant with that name. -/
  | duplicate
  /-- A directory stands for a class that exists and is merged into it. -/
  | mergedClass
  /-- A link to a directory, which is not entered. -/
  | linkedDirectory
  deriving DecidableEq, Repr

namespace SkipReason

/-- All reasons. -/
def all : List SkipReason := [unsanitizable, duplicate, mergedClass, linkedDirectory]

/-- The words for a reason. -/
def text : SkipReason → String
  | unsanitizable => "unsanitizable"
  | duplicate => "duplicate"
  | mergedClass => "merged class"
  | linkedDirectory => "linked directory"

/-- The key for a reason in documents. -/
def key : SkipReason → String
  | mergedClass => "merged_class"
  | linkedDirectory => "linked_directory"
  | r => r.text

end SkipReason

/-- One name left out. -/
structure Skipped where
  /-- The names of the classes from the root to the one the name was meant for. -/
  scope : List String
  /-- The name. -/
  name : String
  /-- Why it was left out. -/
  reason : SkipReason
  deriving DecidableEq, Repr

/-- The class a name was meant for, with dots between the names on the way. -/
def Skipped.scopeText (s : Skipped) : String := ".".intercalate s.scope

/-- The number of names left out for a reason. -/
def countSkipped (skipped : List Skipped) (reason : SkipReason) : Nat :=
  skipped.countP (·.reason = reason)

end JavaConstants
