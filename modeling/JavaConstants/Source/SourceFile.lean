import JavaConstants.Path
import JavaConstants.Source.ClassNode
import JavaConstants.Text.Lines

/-!
# Source files

One source file: an optional comment, the package and a root class with everything nested in it.
-/

namespace JavaConstants

/-- A generated source file. -/
structure SourceFile where
  /-- The package; empty for the unnamed one. -/
  package : String
  /-- The comment above the package. -/
  comment : Option String := none
  /-- The top-level class. -/
  root : ClassNode

/-- The blanks in front of a line at a nesting depth. -/
def indent (depth : Nat) : String := String.ofList (List.replicate (2 * depth) ' ')

/-- A line of source at a nesting depth. -/
def sourceLine (depth : Nat) (text : String) : String := indent depth ++ text ++ "\n"

namespace ClassNode

/-- The line that opens a class: only the root of a file is not `static`. -/
def header (name : String) (depth : Nat) : String :=
  (if depth = 0 then "public final" else "public static final") ++ " class " ++ name ++ " \x7b"

mutual

/-- The lines of a class: its private constructor, its constants, then its nested classes. -/
def render (depth : Nat) : ClassNode → String
  | mk name fields nested =>
    sourceLine depth (header name depth) ++
      sourceLine (depth + 1) ("private " ++ name ++ "() \x7b") ++
      sourceLine (depth + 1) "\x7d" ++
      String.join (fields.map fun (_, f) ↦ "\n" ++ sourceLine (depth + 1) f.declaration) ++
      renderNested (depth + 1) nested ++
      sourceLine depth "\x7d"

/-- The lines of nested classes, an empty line before each. -/
def renderNested (depth : Nat) : List (String × ClassNode) → String
  | [] => ""
  | (_, c) :: cs => "\n" ++ render depth c ++ renderNested depth cs

end

end ClassNode

namespace SourceFile

/-- The lines of a comment. -/
def renderComment (comment : Option String) : String :=
  match comment with
  | none => ""
  | some text => String.join ((textLines text).map fun line ↦ "// " ++ line ++ "\n")

/-- The package declaration and an empty line; nothing for the unnamed package. -/
def renderPackage (package : String) : String :=
  if package = "" then "" else "package " ++ package ++ ";\n\n"

/-- The text of a source file. -/
def render (f : SourceFile) : String :=
  renderComment f.comment ++ renderPackage f.package ++ f.root.render 0

/-- Where a file stands below its output directory: a directory for each part of the package, and
the root class's name. -/
def relativePath (f : SourceFile) : Path :=
  let directories := ((f.package.toList.splitOn '.').map String.ofList).filter (· ≠ "")
  (directories.foldl (fun (p : Path) part ↦ p.join ⟨part⟩) ⟨""⟩).join ⟨f.root.name ++ ".java"⟩

end SourceFile

end JavaConstants
