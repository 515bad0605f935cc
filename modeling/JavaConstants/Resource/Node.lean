import JavaConstants.FileSystem.Basic

/-!
# Resource trees

What a walk sees of a resources directory: files with what reading them gives, directories with
their children sorted by name, and links to directories, which are not entered. A link to a file is
a file under the link's own name. Everything else is passed over, with the reason.
-/

namespace JavaConstants

/-- Why an entry of a directory is passed over. -/
inductive PassedReason where
  /-- A link whose target cannot be reached. -/
  | danglingLink (cause : OsError)
  /-- A link to something that is neither a file nor a directory. -/
  | linkToOther
  /-- Something that is neither a file, a directory nor a link. -/
  | other
  deriving DecidableEq, Repr

/-- An entry of a resources directory. -/
inductive ResourceNode where
  /-- A file with its bytes, or the reason why they cannot be read. -/
  | file (name : String) (content : Except OsError (List UInt8))
  /-- A directory with the entries passed over and its children. -/
  | directory (name : String) (passed : List (String × PassedReason)) (children : List ResourceNode)
  /-- A link to a directory. -/
  | linkedDirectory (name : String)

namespace ResourceNode

/-- The name of an entry. -/
def name : ResourceNode → String
  | file n _ => n
  | directory n _ _ => n
  | linkedDirectory n => n

end ResourceNode

/-- An entry that is seen or passed over. -/
abbrev SeenEntry := PassedReason ⊕ ResourceNode

/-- Entries in the order of their names. -/
def sortByName {α : Type} (entries : List (String × α)) : List (String × α) :=
  entries.mergeSort fun a b ↦ decide (a.1 ≤ b.1)

/-- The entries passed over. -/
def passedOf (entries : List (String × SeenEntry)) : List (String × PassedReason) :=
  entries.filterMap fun
    | (name, .inl reason) => some (name, reason)
    | _ => none

/-- The entries seen. -/
def seenOf (entries : List (String × SeenEntry)) : List ResourceNode :=
  entries.filterMap fun
    | (_, .inr node) => some node
    | _ => none

namespace FileSystem

/-- What a link is to a walk, given what it leads to. -/
def seeLink (name : String) : Except OsError Node → SeenEntry
  | .ok (.file content) => .inr (.file name (.ok content))
  | .ok (.directory _) => .inr (.linkedDirectory name)
  | .ok _ => .inl .linkToOther
  | .error e => .inl (.danglingLink e)

mutual

/-- What an entry of the directory at `path` is to a walk. -/
def seeEntry (fs : FileSystem) (path : Path) (name : String) : Node → SeenEntry
  | .file content => .inr (.file name (.ok content))
  | .directory entries =>
    let seen := sortByName (seeEntries fs (path.join ⟨name⟩) entries)
    .inr (.directory name (passedOf seen) (seenOf seen))
  | .link _ => seeLink name (fs.stat (path.join ⟨name⟩))
  | .device => .inl .other

/-- What the entries of the directory at `path` are to a walk. -/
def seeEntries (fs : FileSystem) (path : Path) :
    List (String × Node) → List (String × SeenEntry)
  | [] => []
  | (name, node) :: entries => (name, seeEntry fs path name node) :: seeEntries fs path entries

end

/-- What the directory at `path` holds for a walk, sorted by name. Anything but a directory holds
nothing. -/
def listResources (fs : FileSystem) (path : Path) :
    Except OsError (List (String × SeenEntry)) :=
  match fs.stat path with
  | .ok node => .ok (sortByName (seeEntries fs path node.entries))
  | .error e => .error e

end FileSystem

end JavaConstants
