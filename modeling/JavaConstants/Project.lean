import JavaConstants.CommandLine.Basic
import JavaConstants.Generate.BuildConstants
import JavaConstants.Generate.Resources
import JavaConstants.Report
import JavaConstants.Settings.Load

/-!
# Projects

A project directory with its settings, and the commands that work on it. The flags of a command
replace or extend the settings; paths in flags are taken from the project directory, as those in
the settings are.
-/

namespace JavaConstants

/-- A project. -/
structure Project where
  /-- The canonical path of its directory. -/
  directory : Path
  /-- Its settings, with all paths taken from its directory. -/
  settings : Settings
  deriving DecidableEq, Repr

/-- The settings of the resource class with the flags of a command on top. -/
def ResourceArguments.applyTo (a : ResourceArguments) (project : Path) (s : ResourceSettings) :
    ResourceSettings :=
  { s with
    packageName := a.packageName.getD s.packageName
    className := a.className.getD s.className
    resourcesDir := (a.resourcesDir.map project.resolveAgainst).getD s.resourcesDir
    outputDir := (a.outputDir.map project.resolveAgainst).getD s.outputDir
    exclusions := s.exclusions ++ a.exclusions.map project.resolveAgainst
    uppercaseFields := s.uppercaseFields || a.uppercaseFields
    lowercaseClasses := s.lowercaseClasses || a.lowercaseClasses
    enableCss := s.enableCss || a.css
    enableJson := s.enableJson || a.json
    enableProperties := s.enableProperties || a.properties
    css := { s.css with
      writeElementTypeSelector := s.css.writeElementTypeSelector || a.cssElementSelectors
      charset := a.cssCharset.getD s.css.charset }
    json := { s.json with recursive := s.json.recursive || a.jsonRecursive }
    properties :=
      { s.properties with
        writeResourceBundle := s.properties.writeResourceBundle || a.resourceBundle } }

/-- The constants that arguments describe. -/
def parseFields : List String → Except ConfigurationError (List CustomField)
  | [] => .ok []
  | argument :: arguments =>
    match CustomField.parse? argument with
    | none => .error (.fieldArgumentInvalid argument)
    | some field => (parseFields arguments).map (field :: ·)

/-- The settings of the class of build constants with the flags of a command on top. -/
def BuildArguments.applyTo (a : BuildArguments) (project : Path) (s : BuildSettings) :
    Except ConfigurationError BuildSettings := do
  let fields ← parseFields a.fields
  .ok { s with
    packageName := a.packageName.getD s.packageName
    className := a.className.getD s.className
    outputDir := (a.outputDir.map project.resolveAgainst).getD s.outputDir
    appName := a.appName.getD s.appName
    groupId := a.groupId.getD s.groupId
    appVersion := a.appVersion.getD s.appVersion
    debug := s.debug || a.debug
    artifactId := a.artifactId <|> s.artifactId
    desc := a.desc <|> s.desc
    email := a.email <|> s.email
    url := a.url <|> s.url
    fields := s.fields ++ fields }

/-- A report in the format asked for; any other word than `json` asks for text. -/
def GenerationReport.show (r : GenerationReport) (title format : String) : String :=
  if format = "json" then Json.pretty r.toJson else r.text title

namespace Project

/-- The project of a directory, with the settings file of the project or another one. -/
def load (fs : FileSystem) (env : Environment) (directory : Path) (settingsFile : Option Path) :
    Except Error Project :=
  match fs.canonical directory with
  | .error e => .error (.configuration (.projectMissing directory e))
  | .ok names =>
    let project := Path.ofNames names
    let loaded := match settingsFile with
      | some file => Settings.loadFile fs env (project.resolveAgainst file)
      | none => Settings.load fs env project
    match loaded with
    | .error e => .error (.settings e)
    | .ok settings => .ok ⟨project, settings.resolvePaths project⟩

/-- The settings as text in a format. -/
def settingsText (p : Project) (format : String) : Except ConfigurationError String :=
  if format = "json" then .ok p.settings.jsonText
  else if format = "toml" then .ok p.settings.tomlText
  else .error (.settingsFormatInvalid format)

/-- Runs a command; gives the text to print. The project directory may not be deleted. -/
def execute (p : Project) (clock : Clock) : Command → Generating String
  | .resources a => do
    let report ← (a.applyTo p.directory p.settings.r).generate [p.directory] clock
    pure (report.show "R generated" a.format)
  | .buildConfig a => do
    let s ← Generating.check (a.applyTo p.directory p.settings.buildConfig)
    let report ← s.generate [p.directory] clock
    pure (report.show "BuildConfig generated" a.format)
  | .sanitize names format => do
    Generating.log (.namesSanitized names.length)
    pure (if format = "json" then Json.pretty (sanitizedJson names) else sanitizedText names)
  | .config format => Generating.check (p.settingsText format)

end Project

end JavaConstants
