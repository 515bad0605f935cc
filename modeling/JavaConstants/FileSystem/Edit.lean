import JavaConstants.FileSystem.Basic

/-!
# Changing a file system

Creating and removing directories and writing files. A single step either changes one entry or
leaves the file system as it is and names the error. The composite operations keep what their
steps did before an error.
-/

namespace JavaConstants

namespace FileSystem

/-- The outcome of an operation that may stop half way: the file system is given in both cases. -/
abbrev Edited := EStateM.Result OsError FileSystem Unit

/-- The names of the directory that holds the last part of a path, and that part; it is empty for
the root. -/
def parentPlace (fs : FileSystem) (p : Path) : Except OsError (List String × String) :=
  if p.text.toList.contains '\x00' then .error .nulCharacter
  else if p.text = "" then .error .notFound
  else
    let parts := (p.parts.reverse.dropWhile (· = "")).reverse
    match resolveSteps fs.root true maxLinks (start fs.current p)
        (parts.dropLast.map PathStep.ofPart) with
    | .error e => .error e
    | .ok (.free _ _) => .error .notFound
    | .ok (.found names) =>
      if (fs.node? names).any (·.isDirectory) then .ok (names, parts.getLast?.getD "")
      else .error .notDirectory

/-- The file system with a node put at a place. -/
def insert (fs : FileSystem) (names : List String) (n : Node) : FileSystem :=
  { fs with root := Node.insert n names fs.root }

/-- The file system without the entry at a place. -/
def erase (fs : FileSystem) (names : List String) : FileSystem :=
  { fs with root := fs.root.erase names }

/-! ## Single steps -/

/-- Creates one directory. -/
def createDirectory (fs : FileSystem) (p : Path) : Except OsError FileSystem := do
  let (directory, name) ← fs.parentPlace p
  if name = "" ∨ name = "." ∨ name = ".." then .error .alreadyExists
  else if maxNameBytes < name.utf8ByteSize then .error .nameTooLong
  else if (fs.node? (directory ++ [name])).isSome then .error .alreadyExists
  else .ok (fs.insert (directory ++ [name]) .emptyDirectory)

/-- Removes one empty directory. -/
def removeDirectory (fs : FileSystem) (p : Path) : Except OsError FileSystem := do
  let (directory, name) ← fs.parentPlace p
  if name = "" then .error .busy
  else if name = "." then .error .invalidArgument
  else if name = ".." then .error .notEmpty
  else match fs.node? (directory ++ [name]) with
    | none => .error .notFound
    | some (.directory []) => .ok (fs.erase (directory ++ [name]))
    | some (.directory _) => .error .notEmpty
    | some _ => .error .notDirectory

/-- Changes the content of the file a path denotes; a missing file is created first. -/
def modifyFile (fs : FileSystem) (p : Path) (change : List UInt8 → List UInt8) :
    Except OsError FileSystem :=
  if p.text.toList.getLast? = some '/' then do
    let _ ← fs.parentPlace p
    .error .isDirectory
  else match fs.place true p with
    | .error e => .error e
    | .ok (.free directory name) => .ok (fs.insert (directory ++ [name]) (.file (change [])))
    | .ok (.found names) =>
      match fs.node? names with
      | some (.file content) => .ok (fs.insert names (.file (change content)))
      | some (.directory _) => .error .isDirectory
      | _ => .ok fs

/-- Writes a file, in place of what it held. -/
def write (fs : FileSystem) (p : Path) (content : List UInt8) : Except OsError FileSystem :=
  fs.modifyFile p fun _ ↦ content

/-- Writes at the end of a file. -/
def append (fs : FileSystem) (p : Path) (content : List UInt8) : Except OsError FileSystem :=
  fs.modifyFile p (· ++ content)

/-! ## Composite operations -/

/-- Creates the first of some paths, after those behind it, each the parent of the one before. -/
def createAncestors (fs : FileSystem) : List Path → Edited
  | [] => .ok () fs
  | p :: above =>
    if p.components = [] then .ok () fs
    else match fs.createDirectory p with
      | .ok created => .ok () created
      | .error .notFound =>
        match fs.createAncestors above with
        | .error e fs₁ => .error e fs₁
        | .ok () fs₁ =>
          match fs₁.createDirectory p with
          | .ok created => .ok () created
          | .error e => if fs₁.isDirectory p then .ok () fs₁ else .error e fs₁
      | .error e => if fs.isDirectory p then .ok () fs else .error e fs

/-- Creates a directory and the directories missing above it. -/
def createDirectories (fs : FileSystem) (p : Path) : Edited := fs.createAncestors p.ancestors

/-- Removes a directory with everything in it. A link is removed itself; a directory is emptied
first and then removed under the path as it is spelled. -/
def removeTree (fs : FileSystem) (p : Path) : Edited :=
  match fs.locate false p with
  | .error e => .error e fs
  | .ok names =>
    match fs.node? names with
    | some (.link _) => .ok () (fs.erase names)
    | some (.directory _) =>
      let emptied := fs.insert names .emptyDirectory
      match emptied.removeDirectory p with
      | .ok removed => .ok () removed
      | .error .notFound => .ok () emptied
      | .error e => .error e emptied
    | _ => .error .notDirectory fs

end FileSystem

end JavaConstants
