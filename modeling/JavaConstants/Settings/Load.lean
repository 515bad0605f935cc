import JavaConstants.FileSystem.Basic
import JavaConstants.Settings.Decode
import JavaConstants.Settings.Document
import JavaConstants.Text.Utf8
import JavaConstants.Toml.Parser

/-!
# Loading settings

The layers of a project's settings are the defaults, a settings file and the environment, in this
order.
-/

namespace JavaConstants

/-- The names of an absolute path taken from an absolute base: what both begin with is left out, and
each further name of the base is left by a `..`. -/
def Path.relativeNames : (base path : List Component) → List String
  | b :: base, p :: path =>
    if b = p then Path.relativeNames base path
    else (b :: base).map (fun _ ↦ "..") ++ (p :: path).filterMap Component.text?
  | base, path => base.map (fun _ ↦ "..") ++ path.filterMap Component.text?

/-- An absolute path as it is seen from an absolute base. -/
def Path.relativeTo (p base : Path) : Path :=
  .ofParts false (Path.relativeNames base.components p.components)

namespace FileSystem

/-- The current directory. -/
def currentPath (fs : FileSystem) : Path := .ofNames fs.current

/-- The settings file at a path: the file itself or, if there is none, the one whose name has the
extension once more. -/
def settingsFile? (fs : FileSystem) (p : Path) : Option Path :=
  let whole := fs.currentPath.join p
  let longer : Path := ⟨whole.text ++ ".toml"⟩
  if fs.isFile whole then some whole else if fs.isFile longer then some longer else none

end FileSystem

/-- The settings of a file's content. Errors name the file by `origin`. -/
def Setting.ofFile (origin : String) (content : List UInt8) :
    Except SettingsError (List (String × Setting)) :=
  match Toml.parse? (dropByteOrderMark (dropByteOrderMark (utf8Lossy 0 content))) with
  | some members => .ok (Setting.membersOfToml origin members)
  | none => .error .malformed

/-- The settings with the layer of a file, if there is one, and that of the environment. -/
def Settings.loadLayers (fs : FileSystem) (env : Environment) (file : Path) :
    Except SettingsError Settings := do
  let root := Setting.defaults
  let root ← match fs.settingsFile? file with
    | none => pure root
    | some whole =>
      match fs.read whole with
      | .error _ => pure root
      | .ok content =>
        (Setting.ofFile (whole.relativeTo fs.currentPath).text content).map root.overlay
  Settings.ofSetting (root.overlay env.layer)

/-- The settings of a project directory; its settings file need not exist. -/
def Settings.load (fs : FileSystem) (env : Environment) (project : Path) :
    Except SettingsError Settings :=
  loadLayers fs env (project.join ⟨settingsFileName⟩)

/-- The settings with the layer of a file that must exist. -/
def Settings.loadFile (fs : FileSystem) (env : Environment) (file : Path) :
    Except SettingsError Settings :=
  if fs.isFile file then loadLayers fs env file else .error (.fileMissing file)

end JavaConstants
