import JavaConstants.Error
import JavaConstants.FileSystem.Edit
import JavaConstants.FileSystem.Resolved
import JavaConstants.Identifier
import JavaConstants.Log.Event
import JavaConstants.Source.SourceFile
import JavaConstants.Text.Utf8

/-!
# Output directories

Checks of names and of the output directory, and the replacement of an output directory by one
generated file. The directory is removed with everything in it, so it may neither be a protected
directory nor hold one.
-/

namespace JavaConstants

/-- The files of a run and the events so far. -/
structure Workspace where
  /-- The files. -/
  files : FileSystem
  /-- The events, oldest first. -/
  events : List Event := []

/-- A step that changes a workspace and may stop the run. What was done before stays. -/
abbrev Generating := EStateM Error Workspace

/-- What a successful run reports. -/
structure GenerationReport where
  /-- The name of the root class. -/
  className : String
  /-- The file written. -/
  outputFile : Path
  /-- The number of constants in all classes. -/
  fieldCount : Nat
  /-- The number of classes. -/
  classCount : Nat
  /-- The names left out. -/
  skipped : List Skipped
  /-- The time the run took, in milliseconds. -/
  duration : Nat
  deriving DecidableEq, Repr

/-! ## Checks -/

/-- Whether a text is empty but for white space. -/
def isBlankText (s : String) : Bool := s.toList.all Unicode.isBlank

/-- Checks a package name. -/
def checkPackageName (name : String) : Except ConfigurationError Unit :=
  if isBlankText name then .error .packageNameBlank
  else if isPackageName name then .ok ()
  else .error (.packageNameInvalid name)

/-- Checks a class name. -/
def checkClassName (name : String) : Except ConfigurationError Unit :=
  if isBlankText name then .error .classNameBlank
  else if isName name then .ok ()
  else .error (.classNameInvalid name)

/-- Checks that an output directory neither is one of some directories nor holds one. -/
def checkOutput (fs : FileSystem) (output : Path) :
    (guarded : List Path) → Except ConfigurationError Unit
  | [] => .ok ()
  | directory :: guarded =>
    if (fs.resolved directory).startsWith (fs.resolved output) then
      .error (.outputDeletes output (fs.resolved directory))
    else checkOutput fs output guarded

/-! ## Steps -/

namespace Generating

/-- A check as a step. -/
def check {α : Type} (x : Except ConfigurationError α) : Generating α :=
  match x with
  | .ok a => pure a
  | .error e => throw (.configuration e)

/-- Records an event. -/
def log (e : Event) : Generating Unit :=
  modify fun w ↦ { w with events := w.events ++ [e] }

/-- Changes the files at a path. -/
def edit (p : Path) (change : FileSystem → FileSystem.Edited) : Generating Unit := fun w ↦
  match change w.files with
  | .ok () fs => .ok () { w with files := fs }
  | .error e fs => .error (.file p e) { w with files := fs }

end Generating

/-- A single change as a composite one. -/
def FileSystem.asEdited (fs : FileSystem) (x : Except OsError FileSystem) : FileSystem.Edited :=
  match x with
  | .ok changed => .ok () changed
  | .error e => .error e fs

/-- Empties an output directory: removes it if it exists and creates it. -/
def refreshOutput (output : Path) : Generating Unit := do
  if (← get).files.pathExists output then
    Generating.edit output (·.removeTree output)
    Generating.log (.outputDeleted output)
  Generating.edit output (·.createDirectories output)

/-- Writes a source file below a directory; gives the path written. -/
def SourceFile.writeTo (f : SourceFile) (directory : Path) : Generating Path := do
  let path := directory.join f.relativePath
  match path.parent? with
  | some parent => Generating.edit parent (·.createDirectories parent)
  | none => pure ()
  Generating.edit path fun fs ↦ fs.asEdited (fs.write path (utf8Bytes f.render))
  pure path

/-- The report on a file that was written. -/
def SourceFile.report (f : SourceFile) (path : Path) (skipped : List Skipped) (duration : Nat) :
    GenerationReport :=
  ⟨f.root.name, path, f.root.totalFields, f.root.totalClasses, skipped, duration⟩

end JavaConstants
