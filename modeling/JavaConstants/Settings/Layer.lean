import JavaConstants.Settings.Error
import JavaConstants.Toml.Value
import JavaConstants.Unicode.Case

/-!
# Layers of settings

Settings are gathered from layers: each gives values under keys, and a later layer replaces what an
earlier one gave. Tables are merged member by member. A key may be a path that leads through tables
and arrays; what is missing on the way is made, and what is no container is replaced by one.
-/

namespace JavaConstants

/-- A setting that holds no others. -/
inductive SettingScalar where
  | unset
  | bool (b : Bool)
  | integer (i : Int)
  | float (x : Double)
  | string (s : String)
  deriving DecidableEq, Repr

/-- A setting, with the layer it came from where an error is to name it. -/
inductive Setting where
  | scalar (v : SettingScalar) (origin : Option String)
  | array (items : List Setting) (origin : Option String)
  | table (members : List (String × Setting)) (origin : Option String)
  deriving Inhabited

namespace Setting

/-- A setting that is not set. -/
def unset : Setting := .scalar .unset none

/-- A table without members. -/
def emptyTable : Setting := .table [] none

/-- The value of a setting as an error describes it. -/
def found : Setting → FoundValue
  | scalar .unset _ => .unit
  | scalar (.bool b) _ => .bool b
  | scalar (.integer i) _ => .integer i
  | scalar (.float x) _ => .float x.pointedText
  | scalar (.string s) _ => .string s
  | array _ _ => .sequence
  | table _ _ => .map

/-- The layer of a setting. -/
def origin : Setting → Option String
  | scalar _ origin | array _ origin | table _ origin => origin

/-- The member of a table under a key. -/
def member? (key : String) : Setting → Option Setting
  | table members _ => (members.find? (·.1 = key)).map (·.2)
  | _ => none

/-- Members with one put in place of the one under its key, or at the end. -/
def putMember (key : String) (s : Setting) : List (String × Setting) → List (String × Setting)
  | [] => [(key, s)]
  | m :: ms => if m.1 = key then (key, s) :: ms else m :: putMember key s ms

/-- A table with a setting put under a key; what is no table is replaced by one. -/
def withMember (root : Setting) (key : String) (s : Setting) : Setting :=
  match root with
  | table members origin => .table (putMember key s members) origin
  | _ => .table [(key, s)] none

/-- The items of an array with the one at position `i` changed. Missing items are not set. -/
def changeItem (change : Setting → Setting) : (i : Nat) → List Setting → List Setting
  | 0, [] => [change unset]
  | 0, s :: items => change s :: items
  | i + 1, [] => unset :: changeItem change i []
  | i + 1, s :: items => s :: changeItem change i items

/-- The position that an index denotes in `length` items; one below zero counts from the end. -/
def position (length : Nat) (i : Int) : Nat :=
  if 0 ≤ i then i.toNat else length - i.natAbs

/-- An array with the item at an index changed; what is no array is replaced by one. -/
def withItem (root : Setting) (i : Int) (change : Setting → Setting) : Setting :=
  match root with
  | array items origin => .array (changeItem change (position items.length i) items) origin
  | _ => .array (changeItem change (position 0 i) []) none

mutual

/-- Puts a setting under a key, which is taken in lower case. A table is merged with what stands
there. -/
def put (root : Setting) (key : String) (s : Setting) : Setting :=
  match s with
  | .table members _ =>
    let key := Unicode.lower key
    root.withMember key (putAll ((root.member? key).getD emptyTable) members)
  | s => root.withMember (Unicode.lower key) s

/-- Puts several settings under their keys. -/
def putAll (root : Setting) : List (String × Setting) → Setting
  | [] => root
  | (key, s) :: members => putAll (put root key s) members

end

end Setting

/-! ## Paths of keys -/

/-- One step on the way to a setting. -/
inductive KeyStep where
  | name (s : String)
  | index (i : Int)
  deriving DecidableEq, Repr

/-- Whether a character may stand in the name of a step. -/
def isKeyChar (c : Char) : Bool := c.isAlphanum || c == ' ' || c == '_' || c == '-'

/-- Whether a character separates an index from its brackets. -/
def isGap (c : Char) : Bool := c == ' ' || c == '\t'

/-- The index between two brackets, of 64 bits at most. -/
def indexOf? (inside : List Char) : Option Int := do
  let (negative, digits) := match inside.dropWhile isGap with
    | '-' :: ds => (true, ds)
    | ds => (false, ds)
  if (digits.dropWhile (·.isDigit)).any fun c ↦ !isGap c then none
  else
    let n ← digitsValue? (digits.takeWhile (·.isDigit))
    let i : Int := if negative then -n else n
    if fitsWord 64 i then some i else none

/-- The first step that characters spell: a name behind a dot or an index in brackets. -/
def keyStep? : List Char → Option (KeyStep × List Char)
  | '.' :: cs =>
    let name := cs.takeWhile isKeyChar
    if name.isEmpty then none else some (.name (String.ofList name), cs.dropWhile isKeyChar)
  | '[' :: cs =>
    match cs.dropWhile (· ≠ ']') with
    | [] => none
    | _ :: rest => (indexOf? (cs.takeWhile (· ≠ ']'))).map fun i ↦ (.index i, rest)
  | _ => none

/-- The steps that characters spell. -/
def keySteps? (cs : List Char) : Option (List KeyStep) :=
  if cs.isEmpty then some []
  else match keyStep? cs with
    | none => none
    | some (step, rest) =>
      if rest.length < cs.length then (keySteps? rest).map (step :: ·) else none
termination_by cs.length

/-- The steps that a key spells, if it is a path. -/
def keyPath? (key : String) : Option (List KeyStep) := keySteps? ('.' :: key.toList)

namespace Setting

/-- Changes the setting at the end of a path. -/
def changeAt (root : Setting) (change : Setting → Setting) : List KeyStep → Setting
  | [] => change root
  | .name key :: steps =>
    let key := Unicode.lower key
    root.withMember key (((root.member? key).getD unset).changeAt change steps)
  | .index i :: steps => root.withItem i fun s ↦ s.changeAt change steps

/-- Puts a setting at the end of a path. -/
def putAt (root : Setting) (path : List KeyStep) (s : Setting) : Setting :=
  match path.getLast? with
  | none => root
  | some (.name key) => root.changeAt (·.put key s) path.dropLast
  | some (.index i) => root.changeAt (·.withItem i fun _ ↦ s) path.dropLast

/-- Settings with a layer on top: a key that is no path is taken as one name. -/
def overlay (root : Setting) (layer : List (String × Setting)) : Setting :=
  layer.foldl (fun root (key, s) ↦
    match keyPath? key with
    | some path => root.putAt path s
    | none => root.put key s) root

end Setting

/-! ## Where layers come from -/

mutual

/-- A value of a settings file. Dates and times count as texts. -/
def Setting.ofToml (origin : String) : Toml.Value → Setting
  | .string s => .scalar (.string s) origin
  | .integer i => .scalar (.integer i) origin
  | .float x => .scalar (.float x) origin
  | .boolean b => .scalar (.bool b) origin
  | .moment m => .scalar (.string m.text) origin
  | .array items => .array (Setting.itemsOfToml origin items) origin
  | .table members => .table (Setting.membersOfToml origin members) origin

/-- The items of an array in a settings file. -/
def Setting.itemsOfToml (origin : String) : List Toml.Value → List Setting
  | [] => []
  | v :: vs => Setting.ofToml origin v :: Setting.itemsOfToml origin vs

/-- The members of a table in a settings file. -/
def Setting.membersOfToml (origin : String) :
    List (String × Toml.Value) → List (String × Setting)
  | [] => []
  | (key, v) :: ms => (key, Setting.ofToml origin v) :: Setting.membersOfToml origin ms

end

/-- The variables of the environment with their values. -/
abbrev Environment := List (String × String)

/-- The value of a variable. -/
def Environment.get? (env : Environment) (name : String) : Option String :=
  (List.find? (·.1 = name) env).map (·.2)

/-- Characters with each pair of underscores replaced by a dot. -/
def dotPairs : List Char → List Char
  | '_' :: '_' :: cs => '.' :: dotPairs cs
  | c :: cs => c :: dotPairs cs
  | [] => []

/-- The beginning of the names of variables that are settings. -/
def variableMark : List Char := ['r', 'g', 'e', 'n', '_', '_']

/-- The value of a variable: a truth value, an integer of 64 bits, a floating-point number or a
text. -/
def SettingScalar.ofVariable (value : String) : SettingScalar :=
  let word := Unicode.lower value
  if word = "true" then .bool true
  else if word = "false" then .bool false
  else match parseInteger? value with
    | some i =>
      if fitsWord 64 i then .integer i
      else (Double.parse? value).elim (.string value) .float
    | none => (Double.parse? value).elim (.string value) .float

/-- The setting of a variable, if its name, in lower case, begins with the mark. -/
def Setting.ofVariable? (name value : String) : Option (String × Setting) :=
  let cs := (Unicode.lower name).toList
  if variableMark.isPrefixOf cs then
    some (String.ofList (dotPairs (cs.drop variableMark.length)),
      .scalar (.ofVariable value) (some "the environment"))
  else none

/-- The layer of the environment. -/
def Environment.layer (env : Environment) : List (String × Setting) :=
  List.filterMap (fun (name, value) ↦ Setting.ofVariable? name value) env

end JavaConstants
