/-!
# Paths

A path is kept as it is spelled, since messages show it that way. Its components are what it means
to a comparison: empty parts and `.` parts vanish, except a `.` that starts a relative path.
-/

namespace JavaConstants

/-- A path as it is spelled. -/
structure Path where
  /-- The spelling. -/
  text : String
  deriving DecidableEq, Repr, Inhabited

/-- One component of a path. -/
inductive Component where
  /-- The root directory at the start of an absolute path. -/
  | root
  /-- A `.` at the start of a relative path. -/
  | here
  /-- A `..`. -/
  | up
  /-- A name. -/
  | name (s : String)
  deriving DecidableEq, Repr

/-- A component as it is spelled between slashes; the root is not. -/
def Component.text? : Component → Option String
  | root => none
  | here => some "."
  | up => some ".."
  | name s => some s

namespace Path

/-- Whether a path starts at the root. -/
def isAbsolute (p : Path) : Bool := p.text.toList.head? == some '/'

/-- The parts between the slashes of a path, behind the slash that makes it absolute. -/
def parts (p : Path) : List String :=
  ((if p.isAbsolute then p.text.toList.drop 1 else p.text.toList).splitOn '/').map String.ofList

/-- The path made of some parts. -/
def ofParts (absolute : Bool) (parts : List String) : Path :=
  ⟨(if absolute then "/" else "") ++ "/".intercalate parts⟩

/-- The component a part stands for, if any, behind the first part of a path. -/
def partComponent? (s : String) : Option Component :=
  if s = "" ∨ s = "." then none else if s = ".." then some .up else some (.name s)

/-- Each part of a path with the component it stands for, if any. -/
def markedParts (p : Path) : List (String × Option Component) :=
  match p.parts with
  | "." :: rest =>
    (".", if p.isAbsolute then none else some .here) :: rest.map fun s ↦ (s, partComponent? s)
  | parts => parts.map fun s ↦ (s, partComponent? s)

/-- The components of a path. -/
def components (p : Path) : List Component :=
  (if p.isAbsolute then [.root] else []) ++ p.markedParts.filterMap (·.2)

/-- Whether two paths have the same components. -/
def same (p q : Path) : Bool := p.components == q.components

/-- The last component of a path, if it is a name. -/
def fileName? (p : Path) : Option String :=
  match p.components.getLast? with
  | some (.name s) => some s
  | _ => none

/-- The name of a file or directory; empty where the path ends in none. -/
def fileName (p : Path) : String := p.fileName?.getD ""

/-- The paths that end in each component of a path and, last, the one before the first component;
the marked parts come last first. -/
def ancestorsFrom (absolute : Bool) : List (String × Option Component) → List Path
  | [] => [ofParts absolute []]
  | (_, none) :: parts => ancestorsFrom absolute parts
  | (s, some _) :: parts =>
    ofParts absolute ((s :: parts.map (·.1)).reverse) :: ancestorsFrom absolute parts

/-- A path and the paths above it, nearest first. -/
def ancestors (p : Path) : List Path :=
  p :: (ancestorsFrom p.isAbsolute p.markedParts.reverse).drop 1

/-- A path without its last component; none for the root and for an empty path. -/
def parent? (p : Path) : Option Path := p.ancestors[1]?

/-- A path taken from a base: an absolute path replaces it. -/
def join (base p : Path) : Path :=
  if p.isAbsolute then p
  else if base.text = "" ∨ base.text.toList.getLast? = some '/' then ⟨base.text ++ p.text⟩
  else ⟨base.text ++ "/" ++ p.text⟩

/-- A path taken from a base unless it is absolute. -/
def resolveAgainst (base p : Path) : Path := if p.isAbsolute then p else base.join p

/-- Whether a path begins with all the components of another. -/
def startsWith (p q : Path) : Bool := q.components.isPrefixOf p.components

/-- The names below `root` on the way to a path, with a slash before each; of the whole path where
it does not begin with `root`. -/
def below (p root : Path) : String :=
  let rest :=
    if p.startsWith root then p.components.drop root.components.length else p.components
  String.join (rest.map fun
    | .name s => "/" ++ s
    | _ => "")

/-- The absolute path through some names. -/
def ofNames (names : List String) : Path := ofParts true names

end Path

/-! ## Names of files -/

/-- The part of a file name before its last dot; the whole name where there is none. -/
def baseName (name : String) : String :=
  let cs := name.toList
  if '.' ∈ cs then String.ofList ((cs.reverse.dropWhile (· ≠ '.')).drop 1).reverse else name

/-- The part of a file name behind its last dot; empty where there is none. -/
def extension (name : String) : String :=
  let cs := name.toList
  if '.' ∈ cs then String.ofList (cs.reverse.takeWhile (· ≠ '.')).reverse else ""

/-- Whether a name starts with a dot. -/
def isHidden (name : String) : Bool := name.toList.head? == some '.'

example : (Path.mk "/a//b/./c/..").components =
    [.root, .name "a", .name "b", .name "c", .up] := by decide

example : ((Path.mk "/a//b/./c/").parent?.map (·.text)) = some "/a//b" := by decide

end JavaConstants
