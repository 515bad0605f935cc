import JavaConstants.FileSystem.OsError
import JavaConstants.Json.Error
import JavaConstants.Path
import JavaConstants.Properties
import JavaConstants.Resource.Format
import JavaConstants.Settings.Error
import JavaConstants.Source.Field
import JavaConstants.Stylesheet.Selectors

/-!
# Errors

Everything that stops a run, by cause. The words stand in one function for each kind of cause.
-/

namespace JavaConstants

/-- What is wrong with the configuration of a run or with its arguments. -/
inductive ConfigurationError where
  | packageNameBlank
  | packageNameInvalid (name : String)
  | classNameBlank
  | classNameInvalid (name : String)
  | fieldNameInvalid (name : String)
  | fieldValueInvalid (type : JavaType) (name value : String)
  | fieldArgumentInvalid (argument : String)
  | charsetUnknown (label : String)
  | resourcesMissing (path : Path)
  | outputInResources (output : Path)
  | outputDeletes (output directory : Path)
  | settingsFormatInvalid (format : String)
  | projectMissing (path : Path) (cause : OsError)
  | projectUnresolved (cause : OsError)
  | logLevelInvalid (level cause : String)
  | logDirectiveInvalid (cause : String)
  | logFormatInvalid (format : String)
  | logOutputInvalid (output : String)
  | logDirectoryFailed (cause : OsError)
  | logFileFailed (path : Path) (cause : OsError)
  deriving DecidableEq, Repr

/-- The report of a configuration error. -/
def ConfigurationError.message : ConfigurationError → String
  | packageNameBlank => "Package name cannot be empty."
  | packageNameInvalid name => "Invalid package name: " ++ name
  | classNameBlank => "Class name cannot be empty."
  | classNameInvalid name => "Invalid class name: " ++ name
  | fieldNameInvalid name => "Invalid field name: " ++ name
  | fieldValueInvalid type name value =>
    "Invalid " ++ type.keyword ++ " value for " ++ name ++ ": " ++ value
  | fieldArgumentInvalid argument =>
    "Invalid field '" ++ argument ++ "' (expected TYPE:NAME=VALUE)"
  | charsetUnknown label => "Unknown CSS charset: " ++ label
  | resourcesMissing path => "Resources folder not found: " ++ path.text
  | outputInResources output =>
    "Output directory " ++ output.text ++ " is inside the resources folder"
  | outputDeletes output directory =>
    "Output directory " ++ output.text ++ " would delete " ++ directory.text
  | settingsFormatInvalid format =>
    "Invalid config format: " ++ format ++ " (must be 'toml' or 'json')"
  | projectMissing path cause =>
    "Project directory not found: " ++ path.text ++ " (" ++ cause.message ++ ")"
  | projectUnresolved cause => "Failed to canonicalize project path: " ++ cause.message
  | logLevelInvalid level cause => "Invalid log level '" ++ level ++ "': " ++ cause
  | logDirectiveInvalid cause => "Invalid log directive: " ++ cause
  | logFormatInvalid format => "Invalid log format: " ++ format ++ " (must be 'json' or 'text')"
  | logOutputInvalid output =>
    "Invalid log output: " ++ output ++
      " (must be 'stdout', 'stderr', 'file', 'file+stderr', or 'both')"
  | logDirectoryFailed cause => "Failed to create log directory: " ++ cause.message
  | logFileFailed path cause =>
    "Failed to open log file " ++ quotedPath path.text ++ ": " ++ cause.message

/-- What is wrong with a resource file of a recognized format. -/
inductive ResourceError where
  | css (e : Stylesheet.StyleError)
  | json (e : Json.ParseError)
  /-- The JSON text is no object. -/
  | jsonRoot
  | properties (e : Properties.MalformedEscape)
  deriving DecidableEq, Repr

namespace ResourceError

/-- The format of the file. -/
def format : ResourceError → ResourceFormat
  | css _ => .css
  | json _ | jsonRoot => .json
  | properties _ => .properties

/-- The report of an error in a resource file. -/
def message : ResourceError → String
  | css e => e.message
  | json e => e.message
  | jsonRoot => "top-level value must be an object"
  | properties e => e.message

end ResourceError

/-- What stops a run. -/
inductive Error where
  | configuration (e : ConfigurationError)
  | resource (path : Path) (e : ResourceError)
  | file (path : Path) (e : OsError)
  | walk (path : Path) (e : OsError)
  | settings (e : SettingsError)
  deriving DecidableEq, Repr

/-- The report of an error. -/
def Error.message : Error → String
  | configuration e => "Configuration error: " ++ e.message
  | resource path e =>
    "Failed to parse " ++ e.format.name ++ " file " ++ path.text ++ ": " ++ e.message
  | file path e => "I/O error at " ++ path.text ++ ": " ++ e.message
  | walk path e =>
    "Failed to walk resources: IO error for operation on " ++ path.text ++ ": " ++ e.message
  | settings e => "Failed to load configuration: " ++ e.message

end JavaConstants
