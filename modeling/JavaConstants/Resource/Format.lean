import JavaConstants.Json.Keys

/-!
# Resource formats

The kinds of resource files whose contents name constants, and what can be chosen for each.
-/

namespace JavaConstants

/-- A format of resource files. -/
inductive ResourceFormat where
  | css
  | json
  | properties
  deriving DecidableEq, Repr

namespace ResourceFormat

/-- The name of a format. -/
def name : ResourceFormat → String
  | css => "CSS"
  | json => "JSON"
  | properties => "properties"

/-- The extension of the files of a format. -/
def extension : ResourceFormat → String
  | css => "css"
  | json => "json"
  | properties => "properties"

end ResourceFormat

/-- The level of the stylesheet grammar. -/
inductive CssVersion where
  | css21
  | css30
  deriving DecidableEq, Repr

namespace CssVersion

/-- The level as settings write it. -/
def settingName : CssVersion → String
  | css21 => "css21"
  | css30 => "css30"

/-- The level as the log writes it. -/
def logName : CssVersion → String
  | css21 => "Css21"
  | css30 => "Css30"

/-- All levels. -/
def all : List CssVersion := [css21, css30]

end CssVersion

/-- What is read from stylesheets. -/
structure CssOptions where
  /-- The label of the charset of files without a byte order mark. -/
  charset : String := "UTF-8"
  /-- The level of the grammar. -/
  version : CssVersion := .css30
  /-- Whether selectors that name neither a class nor an ID are written. -/
  writeElementTypeSelector : Bool := false
  /-- Whether class selectors are written. -/
  writeClassSelector : Bool := true
  /-- Whether ID selectors are written. -/
  writeIdSelector : Bool := true
  deriving DecidableEq, Repr

/-- What is read from properties files. -/
structure PropertiesOptions where
  /-- Whether the files of one bundle write into a nested class of its name. -/
  writeResourceBundle : Bool := false
  deriving DecidableEq, Repr

/-- A format that is read, with its options. -/
inductive FormatAdapter where
  | css (options : CssOptions)
  | json (options : JsonOptions)
  | properties (options : PropertiesOptions)
  deriving DecidableEq, Repr

/-- The format that is read. -/
def FormatAdapter.format : FormatAdapter → ResourceFormat
  | css _ => .css
  | json _ => .json
  | properties _ => .properties

/-- How a resources directory is read. -/
structure ExtractOptions where
  /-- The formats that are read, in the order in which they are tried. -/
  adapters : List FormatAdapter := []
  /-- Whether the names of constants are put in upper case. -/
  uppercaseFields : Bool := false
  /-- Whether the names of classes are put in lower case. -/
  lowercaseClasses : Bool := false
  deriving DecidableEq, Repr

end JavaConstants
