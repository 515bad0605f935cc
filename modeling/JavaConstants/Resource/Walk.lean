import JavaConstants.FileSystem.Resolved
import JavaConstants.Resource.Extract
import JavaConstants.Resource.Node

/-!
# Walking resources

Walks a resource tree into a class tree. A directory becomes a nested class; a file goes to the
format adapters and then adds a constant that holds its path below the root of the walk. Hidden and
excluded entries are left out, and nothing below them is looked at.
-/

namespace JavaConstants

/-- Paths left out of a walk, by their components. -/
structure Exclusions where
  /-- The paths left out, each once. -/
  members : List (List Component)
  deriving DecidableEq, Repr

namespace Exclusions

/-- Exclusions by paths in any spelling. Those that exist are made canonical. -/
def ofPaths (fs : FileSystem) (paths : List Path) : Exclusions :=
  ⟨(paths.map fun p ↦ (fs.canonicalOrSame p).components).eraseDups⟩

/-- Whether a path is left out. -/
def excludes (e : Exclusions) (p : Path) : Bool := e.members.contains p.components

end Exclusions

/-- What a walk needs to know. -/
structure WalkContext where
  /-- How files are read. -/
  options : ExtractOptions
  /-- The paths left out. -/
  exclusions : Exclusions
  /-- The names on the way to the root of the walk. -/
  root : List String

namespace WalkContext

/-- The path of an entry some names below the root of a walk. -/
def path (c : WalkContext) (below : List String) : Path := .ofNames (c.root ++ below)

/-- The class a directory stands for: its name, in lower case if asked for, repaired. -/
def className? (c : WalkContext) (directory : String) : Option String :=
  identifier? (if c.options.lowercaseClasses then Unicode.lower directory else directory)

end WalkContext

/-- The value of a file's path constant: the names below the root, with a slash before each. -/
def pathValue (below : List String) : String := String.join (below.map ("/" ++ ·))

/-- The name that a file's path constant is made from. A file that an adapter knew has an underscore
in front. -/
def pathName (handled : Bool) (fileName : String) : String :=
  if handled then "_" ++ baseName fileName else baseName fileName

/-- The event for an entry that is passed over. -/
def PassedReason.event (path : Path) : PassedReason → Event
  | .danglingLink cause => .danglingLink path cause
  | .linkToOther => .linkToOther path
  | .other => .otherEntry path

/-- Records the entries of a directory that are passed over. -/
def logPassed (c : WalkContext) (below : List String) (passed : List (String × PassedReason)) :
    Harvesting Unit :=
  modify fun h ↦ passed.foldl (fun h (name, reason) ↦
    h.log (reason.event (c.path (below ++ [name])))) h

mutual

/-- Walks one entry; `below` are the directories on the way to it from the root of the walk and
`scope` the classes. -/
def walkNode (c : WalkContext) (below scope : List String) : ResourceNode → Harvesting Unit
  | .directory name passed children =>
    if isHidden name then modify (·.log (.hiddenEntry (c.path (below ++ [name]))))
    else if c.exclusions.excludes (c.path (below ++ [name])) then
      modify (·.log (.excludedEntry (c.path (below ++ [name]))))
    else match c.className? name with
      | none => modify (·.skip scope name .unsanitizable)
      | some className => do
        modify fun h ↦
          if h.root.hasNestedAt scope className then h.skip scope name .mergedClass else h
        modify (·.enter (scope ++ [className]))
        logPassed c (below ++ [name]) passed
        walkNodes c (below ++ [name]) (scope ++ [className]) children
  | .linkedDirectory name =>
    if isHidden name then modify (·.log (.hiddenEntry (c.path (below ++ [name]))))
    else if c.exclusions.excludes (c.path (below ++ [name])) then
      modify (·.log (.excludedEntry (c.path (below ++ [name]))))
    else modify (·.skip scope name .linkedDirectory)
  | .file name content =>
    if isHidden name then modify (·.log (.hiddenEntry (c.path (below ++ [name]))))
    else if c.exclusions.excludes (c.path (below ++ [name])) then
      modify (·.log (.excludedEntry (c.path (below ++ [name]))))
    else do
      let handled ← extractFile c.options scope ⟨c.path (below ++ [name]), name, content⟩
      modify fun h ↦ h.add c.options.uppercaseFields scope (pathName handled name)
        (pathValue (below ++ [name]))

/-- Walks the children of a directory in their order. -/
def walkNodes (c : WalkContext) (below scope : List String) :
    List ResourceNode → Harvesting Unit
  | [] => pure ()
  | node :: nodes => do
    walkNode c below scope node
    walkNodes c below scope nodes

end

/-- Walks the resources directory at a path into the root class of a harvest. -/
def walkResources (fs : FileSystem) (options : ExtractOptions) (exclusions : Exclusions)
    (resources : Path) : Harvesting Unit :=
  match fs.canonical resources with
  | .error e => throw (.file resources e)
  | .ok root => do
    let c : WalkContext := ⟨options, exclusions, root⟩
    let entries ← liftFile ((fs.listResources (.ofNames root)).mapError (.walk (.ofNames root)))
    logPassed c [] (passedOf entries)
    walkNodes c [] [] (seenOf entries)

end JavaConstants
