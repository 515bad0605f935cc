import JavaConstants.FileSystem.Basic

/-!
# Resolved paths

The canonical form of a path that need not exist: the nearest ancestor that exists is made
canonical and the names behind it are put back. A path none of whose ancestors can be made
canonical, or that has a `..` behind a missing name, stays as it is spelled.
-/

namespace JavaConstants

namespace FileSystem

/-- Tries the ancestors of `whole`, nearest first; `names` are those below the one tried. -/
def resolveAmong (fs : FileSystem) (whole : Path) (names : List String) : List Path → Path
  | [] => whole
  | p :: above =>
    match fs.canonical p with
    | .ok found => Path.ofNames (found ++ names)
    | .error _ =>
      match above, p.fileName? with
      | _ :: _, some name => fs.resolveAmong whole (name :: names) above
      | _, _ => whole

/-- A path with its nearest existing ancestor made canonical. -/
def resolved (fs : FileSystem) (p : Path) : Path := fs.resolveAmong p [] p.ancestors

/-- Whether a path is a directory or lies below it, both resolved. -/
def isWithin (fs : FileSystem) (p directory : Path) : Bool :=
  (fs.resolved p).startsWith (fs.resolved directory)

/-- The canonical form of a path, or the path itself where it denotes nothing. -/
def canonicalOrSame (fs : FileSystem) (p : Path) : Path :=
  match fs.canonical p with
  | .ok names => Path.ofNames names
  | .error _ => p

end FileSystem

end JavaConstants
