/-!
# Trees of files

A file, a directory, a symbolic link or a device, with everything below it. A node below another
is addressed by the names on the way; links are not followed here.
-/

namespace JavaConstants

/-- One entry of a file system with everything below it. -/
inductive Node where
  /-- A regular file with its bytes. -/
  | file (content : List UInt8)
  /-- A directory with its entries, in the order the system lists them. -/
  | directory (entries : List (String × Node))
  /-- A symbolic link with the text of its target. -/
  | link (target : String)
  /-- A device that reads as empty and keeps nothing. -/
  | device
  deriving Inhabited

namespace Node

/-- A directory without entries. -/
def emptyDirectory : Node := directory []

/-- The entries of a directory; none for any other node. -/
def entries : Node → List (String × Node)
  | directory es => es
  | _ => []

/-- Whether a node is a directory. -/
def isDirectory : Node → Bool
  | directory _ => true
  | _ => false

/-- Whether a node is a regular file. -/
def isFile : Node → Bool
  | file _ => true
  | _ => false

/-- The entry of a directory with a name. -/
def child? (n : Node) (name : String) : Option Node := (n.entries.find? (·.1 = name)).map (·.2)

/-- The node at a path of names. -/
def find? (n : Node) : List String → Option Node
  | [] => some n
  | name :: path => (n.child? name).bind (·.find? path)

/-- Entries with the one under a name replaced by `m`, or with `m` put at the end. -/
def insertEntry (name : String) (m : Node) : List (String × Node) → List (String × Node)
  | [] => [(name, m)]
  | e :: es => if e.1 = name then (name, m) :: es else e :: insertEntry name m es

/-- Puts `m` at a path of names; nothing changes unless directories lead there. -/
def insert (m : Node) : List String → Node → Node
  | [], _ => m
  | name :: path, n =>
    match n with
    | directory es =>
      if path = [] then directory (insertEntry name m es)
      else match n.child? name with
        | some c => directory (insertEntry name (insert m path c) es)
        | none => n
    | _ => n

/-- Removes the entry at a path of names, with everything below it. -/
def erase : List String → Node → Node
  | [], n => n
  | name :: path, n =>
    match n with
    | directory es =>
      if path = [] then directory (es.filter (·.1 ≠ name))
      else match n.child? name with
        | some c => directory (insertEntry name (erase path c) es)
        | none => n
    | _ => n

end Node

end JavaConstants
