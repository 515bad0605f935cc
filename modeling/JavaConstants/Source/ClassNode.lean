import JavaConstants.Source.Field

/-!
# Trees of classes

A class holds constants and nested classes, each in the order of insertion and each under a key,
the name it was inserted by. Classes below a root are addressed by the keys on the way. The first
constant under a key stays; opening a class that exists changes nothing.
-/

namespace JavaConstants

/-- A class with its constants and its nested classes, each under its key. -/
inductive ClassNode where
  | mk (name : String) (fieldMap : List (String × Field)) (classMap : List (String × ClassNode))

namespace ClassNode

/-- The name of a class. -/
def name : ClassNode → String
  | mk n _ _ => n

/-- The constants of a class under their keys, oldest first. -/
def fieldMap : ClassNode → List (String × Field)
  | mk _ fs _ => fs

/-- The classes right below a class under their keys, oldest first. -/
def classMap : ClassNode → List (String × ClassNode)
  | mk _ _ cs => cs

@[simp] theorem name_mk (n : String) (fs : List (String × Field)) (cs : List (String × ClassNode)) :
    (mk n fs cs).name = n := rfl

@[simp] theorem fieldMap_mk (n : String) (fs : List (String × Field))
    (cs : List (String × ClassNode)) : (mk n fs cs).fieldMap = fs := rfl

@[simp] theorem classMap_mk (n : String) (fs : List (String × Field))
    (cs : List (String × ClassNode)) : (mk n fs cs).classMap = cs := rfl

@[simp] theorem eta (c : ClassNode) : mk c.name c.fieldMap c.classMap = c := by cases c; rfl

/-- The constants of a class, oldest first. -/
def fields (c : ClassNode) : List Field := c.fieldMap.map (·.2)

/-- The classes right below a class, oldest first. -/
def nested (c : ClassNode) : List ClassNode := c.classMap.map (·.2)

/-- A class without members. -/
def empty (name : String) : ClassNode := mk name [] []

instance : Inhabited ClassNode := ⟨empty ""⟩

/-! ## One class -/

/-- The constant under a key. -/
def field? (c : ClassNode) (key : String) : Option Field := c.fieldMap.lookup key

/-- Whether a class has a constant under a key. -/
def hasField (c : ClassNode) (key : String) : Bool := (c.field? key).isSome

/-- The nested class under a key. -/
def nested? (c : ClassNode) (key : String) : Option ClassNode := c.classMap.lookup key

/-- Whether a class has a nested class under a key. -/
def hasNested (c : ClassNode) (key : String) : Bool := (c.nested? key).isSome

/-- Whether a class has no members. -/
def isEmpty (c : ClassNode) : Bool := c.fieldMap.isEmpty && c.classMap.isEmpty

/-- Adds a constant at the end under its own name, unless that key is taken. -/
def addField (c : ClassNode) (f : Field) : ClassNode :=
  if c.hasField f.name then c else mk c.name (c.fieldMap ++ [(f.name, f)]) c.classMap

/-- Applies `g` to the class under a key, which is put at the end if it is missing. -/
def upsert (key : String) (g : ClassNode → ClassNode) :
    List (String × ClassNode) → List (String × ClassNode)
  | [] => [(key, g (empty key))]
  | (k, c) :: cs => if k = key then (k, g c) :: cs else (k, c) :: upsert key g cs

/-! ## Classes below a root -/

/-- The class at a path of keys. -/
def find? (c : ClassNode) : List String → Option ClassNode
  | [] => some c
  | n :: path => (c.nested? n).bind (·.find? path)

/-- Applies `g` to the class at a path; the classes missing on the way are created. -/
def modify (g : ClassNode → ClassNode) : List String → ClassNode → ClassNode
  | [], c => g c
  | n :: path, c => mk c.name c.fieldMap (upsert n (modify g path) c.classMap)

/-- Creates the classes missing on a path. -/
def openAt (c : ClassNode) (path : List String) : ClassNode := modify id path c

/-- Adds a constant to the class at a path. -/
def addFieldAt (c : ClassNode) (path : List String) (f : Field) : ClassNode :=
  modify (·.addField f) path c

/-- Whether the class at a path exists and has a constant under a key. -/
def hasFieldAt (c : ClassNode) (path : List String) (key : String) : Bool :=
  (c.find? path).any (·.hasField key)

/-- Whether the class at a path exists and has a nested class under a key. -/
def hasNestedAt (c : ClassNode) (path : List String) (key : String) : Bool :=
  (c.find? path).any (·.hasNested key)

/-- Offers a constant to the class at a path, which is opened first: whether it is added, and the
tree after it. -/
def offerAt (c : ClassNode) (path : List String) (f : Field) : Bool × ClassNode :=
  let c := c.openAt path
  (!c.hasFieldAt path f.name, c.addFieldAt path f)

/-! ## Counting -/

mutual

/-- The number of constants in a class and below it. -/
def totalFields : ClassNode → Nat
  | mk _ fs cs => fs.length + totalFieldsOf cs

/-- The number of constants in some classes and below them. -/
def totalFieldsOf : List (String × ClassNode) → Nat
  | [] => 0
  | (_, c) :: cs => c.totalFields + totalFieldsOf cs

end

mutual

/-- The number of classes in a tree, its root included. -/
def totalClasses : ClassNode → Nat
  | mk _ _ cs => 1 + totalClassesOf cs

/-- The number of classes in some trees, their roots included. -/
def totalClassesOf : List (String × ClassNode) → Nat
  | [] => 0
  | (_, c) :: cs => c.totalClasses + totalClassesOf cs

end

@[simp] theorem find?_nil (c : ClassNode) : c.find? [] = some c := rfl

@[simp] theorem totalFields_empty (n : String) : (empty n).totalFields = 0 := rfl

@[simp] theorem totalClasses_empty (n : String) : (empty n).totalClasses = 1 := rfl

end ClassNode

end JavaConstants
