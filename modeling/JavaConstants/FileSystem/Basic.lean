import JavaConstants.Path
import JavaConstants.FileSystem.Node
import JavaConstants.FileSystem.OsError

/-!
# File systems

A tree of files with a current directory, and what a path denotes in it. A path is walked part by
part: `.` and an empty part stay, `..` goes up, a name enters a directory, and a link on the way
is replaced by its target. Walking ends in a *place*: an entry that exists, or a free name in a
directory that exists.
-/

namespace JavaConstants

/-- A tree of files and the directory that relative paths start from. -/
structure FileSystem where
  /-- The root directory. -/
  root : Node
  /-- The names on the way to the current directory. -/
  current : List String := []

/-- What a path denotes. -/
inductive Place where
  /-- An existing entry, by the names on the way from the root. -/
  | found (names : List String)
  /-- A free name in an existing directory. -/
  | free (directory : List String) (name : String)
  deriving DecidableEq, Repr

/-- One step of walking a path. -/
inductive PathStep where
  /-- Stay, in a directory. -/
  | stay
  /-- Go to the directory above. -/
  | up
  /-- Enter a name. -/
  | enter (name : String)
  deriving DecidableEq, Repr

/-- The step for one part of a path. -/
def PathStep.ofPart (part : String) : PathStep :=
  if part = "" ∨ part = "." then .stay else if part = ".." then .up else .enter part

/-- The steps of a path. The empty path has none and denotes nothing. -/
def Path.steps (p : Path) : List PathStep := p.parts.map PathStep.ofPart

namespace FileSystem

/-- The longest name of an entry, in bytes. -/
def maxNameBytes : Nat := 255

/-- The number of links that may be met on one way. -/
def maxLinks : Nat := 40

/-- The node at a place given by names. -/
def node? (fs : FileSystem) (names : List String) : Option Node := fs.root.find? names

/-- Where a path or a link's target starts when it is met in a directory. -/
def start (directory : List String) (p : Path) : List String :=
  if p.isAbsolute then [] else directory

/--
Walks steps from the directory `here`. `links` is the number of links that may still be met; the
last step's link is followed only if `follow` is set.
-/
def resolveSteps (root : Node) (follow : Bool) (links : Nat) (here : List String) :
    List PathStep → Except OsError Place
  | [] => .ok (.found here)
  | step :: steps =>
    match root.find? here with
    | some (.directory es) =>
      match step with
      | .stay => resolveSteps root follow links here steps
      | .up => resolveSteps root follow links here.dropLast steps
      | .enter name =>
        if maxNameBytes < name.utf8ByteSize then .error .nameTooLong
        else match es.find? (·.1 = name) with
          | none => if steps = [] then .ok (.free here name) else .error .notFound
          | some (_, .link target) =>
            if steps = [] ∧ follow = false then .ok (.found (here ++ [name]))
            else match links with
              | 0 => .error .linkLoop
              | links + 1 =>
                if target = "" then .error .notFound
                else
                  let target : Path := ⟨target⟩
                  resolveSteps root follow links (start here target) (target.steps ++ steps)
          | some _ => resolveSteps root follow links (here ++ [name]) steps
    | _ => .error .notDirectory
termination_by steps => (links, steps.length)

/-- The place a path denotes. -/
def place (fs : FileSystem) (follow : Bool) (p : Path) : Except OsError Place :=
  if p.text.toList.contains '\x00' then .error .nulCharacter
  else if p.text = "" then .error .notFound
  else resolveSteps fs.root follow maxLinks (start fs.current p) p.steps

/-- The names on the way to the entry a path denotes. -/
def locate (fs : FileSystem) (follow : Bool) (p : Path) : Except OsError (List String) :=
  match fs.place follow p with
  | .ok (.found names) => .ok names
  | .ok (.free _ _) => .error .notFound
  | .error e => .error e

/-- The canonical names of the entry a path denotes, all links followed. -/
def canonical (fs : FileSystem) (p : Path) : Except OsError (List String) := fs.locate true p

/-- The node a path denotes, all links followed. -/
def stat (fs : FileSystem) (p : Path) : Except OsError Node :=
  match fs.locate true p with
  | .ok names => match fs.node? names with
    | some n => .ok n
    | none => .error .notFound
  | .error e => .error e

/-- Whether a path denotes an entry. -/
def pathExists (fs : FileSystem) (p : Path) : Bool := (fs.stat p).toOption.isSome

/-- Whether a path denotes a directory. -/
def isDirectory (fs : FileSystem) (p : Path) : Bool := (fs.stat p).toOption.any (·.isDirectory)

/-- Whether a path denotes a regular file. -/
def isFile (fs : FileSystem) (p : Path) : Bool := (fs.stat p).toOption.any (·.isFile)

/-- The bytes of the file a path denotes. -/
def read (fs : FileSystem) (p : Path) : Except OsError (List UInt8) :=
  match fs.stat p with
  | .ok (.file content) => .ok content
  | .ok (.directory _) => .error .isDirectory
  | .ok _ => .ok []
  | .error e => .error e

end FileSystem

end JavaConstants
