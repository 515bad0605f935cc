import JavaConstants.Generate.DateTime
import JavaConstants.Generate.Workspace
import JavaConstants.Resource.Walk
import JavaConstants.Settings.Basic

/-!
# The resource class

Builds the class of one resources directory and replaces the output directory by it. The class is
built in memory before any file is touched.
-/

namespace JavaConstants

namespace ResourceSettings

/-- The name of the root class, in lower case if asked for. -/
def rootName (s : ResourceSettings) : String :=
  if s.lowercaseClasses then Unicode.lower s.className else s.className

/-- The formats that are read, in the order in which they are tried. -/
def adapters (s : ResourceSettings) : List FormatAdapter :=
  (if s.enableCss then [.css s.css] else []) ++ (if s.enableJson then [.json s.json] else []) ++
    (if s.enableProperties then [.properties s.properties] else [])

/-- How the resources directory is read. -/
def extractOptions (s : ResourceSettings) : ExtractOptions :=
  ⟨s.adapters, s.uppercaseFields, s.lowercaseClasses⟩

/-- Checks everything that must hold before a file is read. -/
def check (s : ResourceSettings) (guarded : List Path) (fs : FileSystem) :
    Except ConfigurationError Unit := do
  checkPackageName s.packageName
  if isBlankText s.className then .error .classNameBlank
  checkClassName s.rootName
  if !fs.isDirectory s.resourcesDir then .error (.resourcesMissing s.resourcesDir)
  if fs.isWithin s.outputDir s.resourcesDir then .error (.outputInResources s.outputDir)
  checkOutput fs s.outputDir (s.resourcesDir :: guarded)

/-- The harvest of the resources directory. -/
def harvest (s : ResourceSettings) (fs : FileSystem) : EStateM.Result Error Harvest Unit :=
  walkResources fs s.extractOptions (.ofPaths fs s.exclusions) s.resourcesDir (.start s.rootName)

/-- Builds the class without writing anything. -/
def build (s : ResourceSettings) (guarded : List Path) (clock : Clock) :
    Generating (SourceFile × List Skipped) := do
  let fs := (← get).files
  Generating.check (s.check guarded fs)
  match s.harvest fs with
  | .ok () h =>
    modify fun w ↦ { w with events := w.events ++ h.events }
    pure (⟨s.packageName, some clock.here.comment, h.root⟩, h.skipped)
  | .error e h =>
    modify fun w ↦ { w with events := w.events ++ h.events }
    throw e

/-- Builds the class and replaces the output directory by it. -/
def generate (s : ResourceSettings) (guarded : List Path) (clock : Clock) :
    Generating GenerationReport := do
  Generating.log (.generatingResources s.resourcesDir s.adapters.length s.exclusions.length)
  let (file, skipped) ← s.build guarded clock
  refreshOutput s.outputDir
  let path ← file.writeTo s.outputDir
  let report := file.report path skipped clock.elapsed
  Generating.log
    (.resourcesGenerated path report.fieldCount report.classCount report.skipped.length)
  pure report

end ResourceSettings

end JavaConstants
