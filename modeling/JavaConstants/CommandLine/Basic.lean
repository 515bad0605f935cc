import JavaConstants.CommandLine.Scan
import JavaConstants.Settings.Basic

/-!
# Command lines

What a user can ask for: one of four commands with its flags, and the flags that every command
takes.
-/

namespace JavaConstants

/-- What the flags of the command `r` choose. -/
structure ResourceArguments where
  /-- The package of the class. -/
  packageName : Option String
  /-- The name of the class. -/
  className : Option String
  /-- The directory to read. -/
  resourcesDir : Option Path
  /-- The directory to replace. -/
  outputDir : Option Path
  /-- Further paths left out. -/
  exclusions : List Path
  /-- Whether to put the names of constants in upper case. -/
  uppercaseFields : Bool
  /-- Whether to put the names of classes in lower case. -/
  lowercaseClasses : Bool
  /-- Whether to read stylesheets. -/
  css : Bool
  /-- Whether to read JSON files. -/
  json : Bool
  /-- Whether to read properties files. -/
  properties : Bool
  /-- Whether to write selectors that name neither a class nor an ID. -/
  cssElementSelectors : Bool
  /-- The charset of stylesheets. -/
  cssCharset : Option String
  /-- Whether to read objects in arrays. -/
  jsonRecursive : Bool
  /-- Whether to group properties files by bundle. -/
  resourceBundle : Bool
  /-- The format of the report. -/
  format : String
  deriving DecidableEq, Repr

/-- What the flags of the command `build-config` choose. -/
structure BuildArguments where
  /-- The package of the class. -/
  packageName : Option String
  /-- The name of the class. -/
  className : Option String
  /-- The directory to replace. -/
  outputDir : Option Path
  /-- The name of the application. -/
  appName : Option String
  /-- The group of the application. -/
  groupId : Option String
  /-- The version of the application. -/
  appVersion : Option String
  /-- Whether the build is one for debugging. -/
  debug : Bool
  /-- The artifact. -/
  artifactId : Option String
  /-- The description. -/
  desc : Option String
  /-- The e-mail address. -/
  email : Option String
  /-- The web address. -/
  url : Option String
  /-- Further constants, each in the form `TYPE:NAME=VALUE`. -/
  fields : List String
  /-- The format of the report. -/
  format : String
  deriving DecidableEq, Repr

/-- What the program is to do. -/
inductive Command where
  /-- Generate the resource class. -/
  | resources (arguments : ResourceArguments)
  /-- Generate the class of build constants. -/
  | buildConfig (arguments : BuildArguments)
  /-- Show the identifiers of names. -/
  | sanitize (names : List String) (format : String)
  /-- Show the settings. -/
  | config (format : String)
  deriving DecidableEq, Repr

/-- What the flags for the log choose. -/
structure LogArguments where
  /-- The filter. -/
  level : Option String
  /-- The format of the lines. -/
  format : Option String
  /-- Where the lines go. -/
  output : Option String
  /-- The log file. -/
  file : Option Path
  deriving DecidableEq, Repr

/-- A command line. -/
structure CommandLine where
  /-- The project directory. -/
  projectDir : Path
  /-- The settings file, in place of that of the project. -/
  settingsFile : Option Path
  /-- The choices for the log. -/
  log : LogArguments
  /-- The command. -/
  command : Command
  deriving DecidableEq, Repr

/-- The settings of the log with the choices of the command line on top. -/
def LogArguments.applyTo (a : LogArguments) (s : LogSettings) : LogSettings :=
  { s with
    level := a.level.getD s.level
    format := a.format.getD s.format
    output := a.output.getD s.output
    file := a.file <|> s.file }

/-! ## Flags -/

/-- The flags that every command takes, in front of the command or behind it. -/
def commonFlags : List Flag := [
  ⟨"project-dir", .path⟩, ⟨"config", .path⟩, ⟨"log-level", .text⟩, ⟨"log-format", .text⟩,
  ⟨"log-output", .text⟩, ⟨"log-file", .path⟩]

/-- The flags of the command `r`. -/
def resourceFlags : List Flag := [
  ⟨"package", .text⟩, ⟨"class-name", .text⟩, ⟨"resources-dir", .path⟩, ⟨"output-dir", .path⟩,
  ⟨"exclude", .paths⟩, ⟨"uppercase-fields", .switch⟩, ⟨"lowercase-classes", .switch⟩,
  ⟨"css", .switch⟩, ⟨"json", .switch⟩, ⟨"properties", .switch⟩,
  ⟨"css-element-selectors", .switch⟩, ⟨"css-charset", .text⟩, ⟨"json-recursive", .switch⟩,
  ⟨"resource-bundle", .switch⟩, ⟨"format", .text⟩]

/-- The flags of the command `build-config`. -/
def buildFlags : List Flag := [
  ⟨"package", .text⟩, ⟨"class-name", .text⟩, ⟨"output-dir", .path⟩, ⟨"app-name", .text⟩,
  ⟨"group-id", .text⟩, ⟨"app-version", .text⟩, ⟨"debug", .switch⟩, ⟨"artifact-id", .text⟩,
  ⟨"desc", .text⟩, ⟨"email", .text⟩, ⟨"url", .text⟩, ⟨"field", .texts⟩, ⟨"format", .text⟩]

/-- The commands and what they take. -/
def commandShapes : List (String × CommandShape) := [
  ("r", { flags := resourceFlags ++ commonFlags }),
  ("build-config", { flags := buildFlags ++ commonFlags }),
  ("sanitize", { flags := ⟨"format", .text⟩ :: commonFlags, takesOperands := true }),
  ("config", { flags := ⟨"format", .text⟩ :: commonFlags })]

/-- The name of the command that shows help texts. -/
def helpCommand : String := "help"

/-- What stands in front of the command. -/
def topShape : CommandShape :=
  { flags := commonFlags
    hasVersion := true
    commands := commandShapes.map (·.1) ++ [helpCommand] }

/-! ## Commands -/

namespace Scan

/-- A path as the value of a flag. -/
def path? (s : Scan) (name : String) : Option Path := (s.value? name).map (⟨·⟩)

/-- The command that the arguments behind its name describe. -/
def command (s : Scan) (name : String) : Except UsageError Command :=
  if name = "r" then .ok (.resources {
    packageName := s.value? "package"
    className := s.value? "class-name"
    resourcesDir := s.path? "resources-dir"
    outputDir := s.path? "output-dir"
    exclusions := (s.values "exclude").map (⟨·⟩)
    uppercaseFields := s.has "uppercase-fields"
    lowercaseClasses := s.has "lowercase-classes"
    css := s.has "css"
    json := s.has "json"
    properties := s.has "properties"
    cssElementSelectors := s.has "css-element-selectors"
    cssCharset := s.value? "css-charset"
    jsonRecursive := s.has "json-recursive"
    resourceBundle := s.has "resource-bundle"
    format := (s.value? "format").getD "text" })
  else if name = "build-config" then .ok (.buildConfig {
    packageName := s.value? "package"
    className := s.value? "class-name"
    outputDir := s.path? "output-dir"
    appName := s.value? "app-name"
    groupId := s.value? "group-id"
    appVersion := s.value? "app-version"
    debug := s.has "debug"
    artifactId := s.value? "artifact-id"
    desc := s.value? "desc"
    email := s.value? "email"
    url := s.value? "url"
    fields := s.values "field"
    format := (s.value? "format").getD "text" })
  else if name = "sanitize" then
    if s.operands.isEmpty then .error .missingOperand
    else .ok (.sanitize s.operands ((s.value? "format").getD "text"))
  else .ok (.config ((s.value? "format").getD "toml"))

end Scan

namespace CommandLine

/-- The answer to a request for help about some commands. -/
def helpAbout : List String → UsageError
  | [] => .help
  | name :: names =>
    if topShape.commands.contains name ∧ names.isEmpty then .help else .unknownCommand

/-- The command line that arguments spell. A flag behind the command wins over one in front. -/
def parse (arguments : List String) : Except UsageError CommandLine := do
  let (top, command) ← Scan.run topShape {} arguments
  match command with
  | none =>
    let top ← top.settle
    .error (if top.given.isEmpty then .helpForNothing else .missingCommand)
  | some (name, rest) =>
    match commandShapes.find? (·.1 = name) with
    | none => .error (helpAbout rest)
    | some (_, shape) =>
      let (inner, _) ← Scan.run shape {} rest
      let inner ← inner.settle
      let command ← inner.command name
      let top ← top.settle
      let value? (flag : String) : Option String := inner.value? flag <|> top.value? flag
      .ok {
        projectDir := ⟨(value? "project-dir").getD "."⟩
        settingsFile := (value? "config").map (⟨·⟩)
        log := ⟨value? "log-level", value? "log-format", value? "log-output",
          (value? "log-file").map (⟨·⟩)⟩
        command := command }

end CommandLine

end JavaConstants
