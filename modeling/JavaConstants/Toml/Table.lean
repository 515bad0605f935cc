import JavaConstants.Toml.Value

/-!
# Tables under construction

A document defines its tables piece by piece: by headers, by the headers of tables inside them and
by dotted keys. Each table remembers how it came about, since that decides what may still be added
to it: a header may define a table once, and dotted keys may only add to a table made by dotted
keys.
-/

namespace JavaConstants.Toml

/-- How a table came about. -/
inductive TableOrigin where
  /-- By a header of its own. -/
  | header
  /-- By the header of a table inside it. -/
  | implied
  /-- By a dotted key. -/
  | dotted
  deriving DecidableEq, Repr

/-- A member of a table under construction. -/
inductive Item where
  | value (v : Value)
  | table (origin : TableOrigin) (members : List (String × Item))
  /-- The tables of an array that grows by headers, last first. -/
  | rows (rows : List (List (String × Item)))

/-- The members of a table under construction. -/
abbrev Members := List (String × Item)

/-- The member with a name. -/
def Members.find? (ms : Members) (key : String) : Option Item :=
  (List.find? (·.1 = key) ms).map (·.2)

/-- Members with one put in place of the one of its name, or at the end. -/
def Members.put (key : String) (item : Item) : Members → Members
  | [] => [(key, item)]
  | m :: ms => if m.1 = key then (key, item) :: ms else m :: Members.put key item ms

/-- Changes the table at the end of a path, given how that table came about. A missing table on the
way is made; an array of tables leads to its last table. A path of a dotted key may not enter a
table with a header. -/
def Members.changeAt (byDots : Bool) (change : TableOrigin → Members → Option Members) :
    (path : List String) → TableOrigin → Members → Option Members
  | [], origin, ms => change origin ms
  | key :: path, _, ms =>
    match ms.find? key with
    | none =>
      let origin := if byDots then .dotted else .implied
      (changeAt byDots change path origin []).map fun inner ↦ ms.put key (.table origin inner)
    | some (.value _) => none
    | some (.rows []) => none
    | some (.rows (last :: rows)) =>
      (changeAt byDots change path .header last).map fun inner ↦ ms.put key (.rows (inner :: rows))
    | some (.table origin inner) =>
      if byDots ∧ origin = .header then none
      else (changeAt byDots change path origin inner).map fun inner ↦
        ms.put key (.table origin inner)

/-- Defines a value by a key whose last part is `key`. -/
def Members.define (path : List String) (key : String) (v : Value) (ms : Members) :
    Option Members :=
  ms.changeAt true (fun origin ms ↦
    if (origin = .dotted ↔ path = []) ∨ (ms.find? key).isSome then none
    else some (ms ++ [(key, .value v)])) path .header

/-- Defines a value inside the table of a header. -/
def Members.defineBelow (header path : List String) (key : String) (v : Value) (ms : Members) :
    Option Members :=
  ms.changeAt false (fun _ ms ↦ ms.define path key v) header .header

/-- Opens the table of a header. -/
def Members.openTable (path : List String) (key : String) (ms : Members) : Option Members :=
  ms.changeAt false (fun _ ms ↦
    match ms.find? key with
    | none => some (ms.put key (.table .header []))
    | some (.table .implied inner) => some (ms.put key (.table .header inner))
    | some _ => none) path .header

/-- Opens a further table of the array of a header. -/
def Members.openRow (path : List String) (key : String) (ms : Members) : Option Members :=
  ms.changeAt false (fun _ ms ↦
    match ms.find? key with
    | none => some (ms.put key (.rows [[]]))
    | some (.rows rows) => some (ms.put key (.rows ([] :: rows)))
    | some _ => none) path .header

mutual

/-- A finished member. -/
def Item.toValue : Item → Value
  | .value v => v
  | .table _ members => .table (finishedMembers members)
  | .rows rows => .array (finishedRows rows).reverse

/-- The finished members of a table. -/
def finishedMembers : List (String × Item) → List (String × Value)
  | [] => []
  | (key, item) :: ms => (key, item.toValue) :: finishedMembers ms

/-- The finished tables of an array, in the order of the list. -/
def finishedRows : List (List (String × Item)) → List Value
  | [] => []
  | row :: rows => .table (finishedMembers row) :: finishedRows rows

end

end JavaConstants.Toml
