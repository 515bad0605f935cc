import JavaConstants.FileSystem.Edit

/-!
# Disks

The link between a file system in memory and the disk. A run is computed in memory: what it may look
at is read from the disk first, and what it changed is written back at the end.
-/

namespace JavaConstants

/-- How much is read from the disk at a path. -/
structure ReadExtent where
  /-- Whether everything below a directory is read. -/
  deep : Bool := false
  /-- The files, by their names, whose bytes are read; others are taken as empty. -/
  wanted : String → Bool := fun _ ↦ true

namespace Disk

/-- The entry of a directory on the disk with a name. -/
def entry (directory : List String) (name : String) : IO.FS.DirEntry :=
  ⟨(Path.ofNames directory).text, name⟩

/-- The entry on the disk at a place; the root is spelled as an entry of itself. -/
def entryAt (names : List String) : IO.FS.DirEntry :=
  match names.getLast? with
  | some name => entry names.dropLast name
  | none => entry [] "."

/-- The kind of an entry on the disk, if it is there. -/
def kind? (e : IO.FS.DirEntry) : IO (Option IO.FS.FileType) := do
  try return some (← e.path.symlinkMetadata).type
  catch _ => return none

/-- The target of a link on the disk; empty where the link leads nowhere. -/
def target (e : IO.FS.DirEntry) : IO String := do
  try return (← IO.FS.realPath e.path).toString
  catch _ => return ""

/-- The names of the current directory. -/
def current : IO (List String) := do
  return Path.parts ⟨(← IO.FS.realPath ".").toString⟩ |>.filter (· ≠ "")

/-- Adds to a file system what the steps of a path meet on the disk. A link below a directory that
is read as a whole is followed as far as its target. -/
partial def loadSteps (extent : ReadExtent) (here : List String) (fs : FileSystem) :
    List PathStep → IO FileSystem
  | [] => do
    if !extent.deep then return fs
    let mut fs := fs
    for e in ← (entryAt here).path.readDir do
      let linked := (← kind? e) == some .symlink
      fs ← loadSteps (if linked then {} else extent) here fs [.enter e.fileName]
    return fs
  | .stay :: steps => loadSteps extent here fs steps
  | .up :: steps => loadSteps extent here.dropLast fs steps
  | .enter name :: steps => do
    let e := entry here name
    let names := here ++ [name]
    let known := (fs.node? names).isSome
    match ← kind? e with
    | none => return fs
    | some .dir =>
      loadSteps extent names (if known then fs else fs.insert names .emptyDirectory) steps
    | some .symlink =>
      let target ← target e
      let fs := if known then fs else fs.insert names (.link target)
      if target = "" then return fs
      else loadSteps extent [] fs (Path.steps ⟨target⟩ ++ steps)
    | some .file =>
      if known then return fs
      else if extent.wanted name then
        return fs.insert names (.file (← IO.FS.readBinFile e.path).toList)
      else return fs.insert names (.file [])
    | some .other => return if known then fs else fs.insert names .device

/-- Adds to a file system what a path meets on the disk. -/
def load (extent : ReadExtent) (fs : FileSystem) (p : Path) : IO FileSystem :=
  loadSteps extent (FileSystem.start fs.current p) fs p.steps

/-- Adds to a file system what several paths meet on the disk. -/
def loadAll (fs : FileSystem) (paths : List Path) : IO FileSystem := paths.foldlM (load {}) fs

/-- The current directory alone, as the disk has it. -/
def start : IO FileSystem := do
  let names ← current
  load {} ⟨.emptyDirectory, names⟩ (.ofNames names)

/-! ## Writing back -/

/-- Removes an entry from the disk with everything below it. -/
def remove (e : IO.FS.DirEntry) : IO Unit := do
  if (← kind? e) == some .dir then IO.FS.removeDirAll e.path else IO.FS.removeFile e.path

/-- Creates a node on the disk. -/
partial def create (names : List String) : Node → IO Unit
  | .directory es => do
    IO.FS.createDir (entryAt names).path
    for (name, n) in es do create (names ++ [name]) n
  | .file content => IO.FS.writeBinFile (entryAt names).path ⟨content.toArray⟩
  | .link _ | .device => pure ()

/-- Writes to the disk in what a tree differs from what it was. -/
partial def update (names : List String) (old new : Node) : IO Unit := do
  match old, new with
  | .directory before, .directory after =>
    for (name, _) in before do
      if !after.any (·.1 = name) then remove (entry names name)
    for (name, n) in after do
      match before.find? (·.1 = name) with
      | some (_, o) => update (names ++ [name]) o n
      | none => create (names ++ [name]) n
  | .file before, .file after =>
    if before ≠ after then IO.FS.writeBinFile (entryAt names).path ⟨after.toArray⟩
  | .link _, .link _ | .device, .device => pure ()
  | _, _ => do
    remove (entryAt names)
    create names new

/-- Writes to the disk in what a file system differs from what it was. -/
def store (old new : FileSystem) : IO Unit := update [] old.root new.root

end Disk

end JavaConstants
