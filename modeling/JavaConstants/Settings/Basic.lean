import JavaConstants.Path
import JavaConstants.Resource.Format
import JavaConstants.Source.Field

/-!
# Settings

What a project can choose, with the values that hold where nothing is chosen: one section for the
resource class, one for the class of build constants and one for the log.
-/

namespace JavaConstants

/-- The name of the settings file of a project. -/
def settingsFileName : String := "rgen.toml"

/-- The settings of the resource class. -/
structure ResourceSettings where
  /-- The package of the class; it must be chosen. -/
  packageName : String := ""
  /-- The name of the class. -/
  className : String := "R"
  /-- The directory that is walked. -/
  resourcesDir : Path := ⟨"src/main/resources"⟩
  /-- The directory that is replaced by the generated source. -/
  outputDir : Path := ⟨"build/generated/r"⟩
  /-- The files and directories left out. -/
  exclusions : List Path := []
  /-- Whether the names of constants are put in upper case. -/
  uppercaseFields : Bool := false
  /-- Whether the names of classes are put in lower case. -/
  lowercaseClasses : Bool := false
  /-- Whether stylesheets are read. -/
  enableCss : Bool := false
  /-- Whether JSON files are read. -/
  enableJson : Bool := false
  /-- Whether properties files are read. -/
  enableProperties : Bool := false
  /-- What is read from stylesheets. -/
  css : CssOptions := {}
  /-- What is read from JSON files. -/
  json : JsonOptions := {}
  /-- What is read from properties files. -/
  properties : PropertiesOptions := {}
  deriving DecidableEq, Repr

/-- A constant that a project adds to its build constants. -/
structure CustomField where
  /-- The name. -/
  name : String
  /-- The type. -/
  type : JavaType
  /-- The value as it is given. -/
  value : String
  deriving DecidableEq, Repr

/-- The settings of the class of build constants. -/
structure BuildSettings where
  /-- The package of the class; it must be chosen. -/
  packageName : String := ""
  /-- The name of the class. -/
  className : String := "BuildConfig"
  /-- The directory that is replaced by the generated source. -/
  outputDir : Path := ⟨"build/generated/buildconfig"⟩
  /-- The value of `NAME`. -/
  appName : String := ""
  /-- The value of `GROUP`. -/
  groupId : String := ""
  /-- The value of `VERSION`. -/
  appVersion : String := ""
  /-- The value of `DEBUG`. -/
  debug : Bool := false
  /-- The value of `ARTIFACT`, if there is to be one. -/
  artifactId : Option String := none
  /-- The value of `DESC`, if there is to be one. -/
  desc : Option String := none
  /-- The value of `EMAIL`, if there is to be one. -/
  email : Option String := none
  /-- The value of `URL`, if there is to be one. -/
  url : Option String := none
  /-- Further constants. -/
  fields : List CustomField := []
  deriving DecidableEq, Repr

/-- The settings of the log. -/
structure LogSettings where
  /-- Whether there is a log. -/
  enabled : Bool := true
  /-- The filter. -/
  level : String := "warn"
  /-- The format of the lines. -/
  format : String := "text"
  /-- Where the lines go. -/
  output : String := "stderr"
  /-- The log file, if one is chosen. -/
  file : Option Path := none
  /-- Whether lines are coloured. -/
  color : Bool := true
  /-- Levels for parts of the program, sorted by part. -/
  modules : List (String × String) := []
  deriving DecidableEq, Repr

/-- The settings of a project. -/
structure Settings where
  /-- The resource class. -/
  r : ResourceSettings := {}
  /-- The class of build constants. -/
  buildConfig : BuildSettings := {}
  /-- The log. -/
  logging : LogSettings := {}
  deriving DecidableEq, Repr

/-- Settings with every relative path taken from a project directory. -/
def Settings.resolvePaths (s : Settings) (project : Path) : Settings :=
  { r := { s.r with
      resourcesDir := project.resolveAgainst s.r.resourcesDir
      outputDir := project.resolveAgainst s.r.outputDir
      exclusions := s.r.exclusions.map project.resolveAgainst }
    buildConfig := { s.buildConfig with
      outputDir := project.resolveAgainst s.buildConfig.outputDir }
    logging := { s.logging with file := s.logging.file.map project.resolveAgainst } }

namespace CustomField

/-- The part of a list before the first `c` and the part after it. -/
def splitAt? (c : Char) (cs : List Char) : Option (List Char × List Char) :=
  if c ∈ cs then some (cs.takeWhile (· ≠ c), (cs.dropWhile (· ≠ c)).drop 1) else none

/-- The constant that an argument of the form `TYPE:NAME=VALUE` describes. -/
def parse? (argument : String) : Option CustomField := do
  let (type, rest) ← splitAt? ':' argument.toList
  let (name, value) ← splitAt? '=' rest
  let type ← JavaType.parse? (String.ofList type)
  some ⟨Unicode.trimBlanks (String.ofList name), type, String.ofList value⟩

end CustomField

end JavaConstants
