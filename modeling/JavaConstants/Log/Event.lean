import JavaConstants.FileSystem.OsError
import JavaConstants.Path
import JavaConstants.Resource.Format
import JavaConstants.Skipped

/-!
# Log events

What a run tells about itself: every event has a level, the part of the program it comes from, a
message and named values.
-/

namespace JavaConstants

/-- How important an event is, least first. -/
inductive LogLevel where
  | trace
  | debug
  | info
  | warn
  | error
  deriving DecidableEq, Repr

namespace LogLevel

/-- The levels as numbers: the greater, the more important. -/
def rank : LogLevel → Nat
  | trace => 1
  | debug => 2
  | info => 3
  | warn => 4
  | error => 5

/-- The name of a level. -/
def name : LogLevel → String
  | trace => "TRACE"
  | debug => "DEBUG"
  | info => "INFO"
  | warn => "WARN"
  | error => "ERROR"

end LogLevel

/-- A value of an event. -/
inductive LogValue where
  /-- A text that lines quote. -/
  | quotedText (s : String)
  /-- A text that stands in lines as it is. -/
  | plainText (s : String)
  | number (n : Nat)
  deriving DecidableEq, Repr

/-- Something that happens in a run. -/
inductive Event where
  | fileRecognized (name : String) (format : ResourceFormat)
  | readingStylesheet (name : String) (version : CssVersion)
  | nameSkipped (s : Skipped)
  | hiddenEntry (path : Path)
  | excludedEntry (path : Path)
  | danglingLink (path : Path) (cause : OsError)
  | linkToOther (path : Path)
  | otherEntry (path : Path)
  | generatingResources (resources : Path) (formats exclusions : Nat)
  | resourcesGenerated (file : Path) (fields classes skipped : Nat)
  | outputDeleted (directory : Path)
  | generatingBuildConfig (className : String)
  | customField (name value : String)
  | buildConfigGenerated (file : Path)
  | namesSanitized (count : Nat)
  deriving DecidableEq, Repr

namespace Event

/-- The level of an event. -/
def level : Event → LogLevel
  | hiddenEntry _ => .trace
  | fileRecognized _ _ | readingStylesheet _ _ | nameSkipped _ | excludedEntry _ | linkToOther _
  | otherEntry _ | customField _ _ => .debug
  | danglingLink _ _ => .warn
  | generatingResources _ _ _ | resourcesGenerated _ _ _ _ | outputDeleted _
  | generatingBuildConfig _ | buildConfigGenerated _ | namesSanitized _ => .info

/-- The part of the program an event comes from. -/
def target : Event → String
  | fileRecognized _ _ => "rgen::adapter"
  | readingStylesheet _ _ => "rgen::adapter::css"
  | nameSkipped _ => "rgen::diagnostics"
  | hiddenEntry _ | excludedEntry _ => "rgen::tree::walker"
  | danglingLink _ _ | linkToOther _ | otherEntry _ => "rgen::tree::node"
  | generatingResources _ _ _ | resourcesGenerated _ _ _ _ => "rgen::generate::r"
  | outputDeleted _ => "rgen::generate::output"
  | generatingBuildConfig _ | customField _ _ | buildConfigGenerated _ =>
    "rgen::generate::buildconfig"
  | namesSanitized _ => "rgen::tooling::cli"

/-- The message of an event. -/
def message : Event → String
  | fileRecognized _ _ => "File recognized"
  | readingStylesheet _ _ => "Reading stylesheet"
  | nameSkipped _ => "Name skipped"
  | hiddenEntry _ => "Skipping hidden entry"
  | excludedEntry _ => "Skipping excluded entry"
  | danglingLink _ _ => "Skipping dangling link"
  | linkToOther _ => "Skipping link to non-regular entry"
  | otherEntry _ => "Skipping non-regular entry"
  | generatingResources _ _ _ => "Generating R"
  | resourcesGenerated _ _ _ _ | buildConfigGenerated _ => "Source generated"
  | outputDeleted _ => "Existing output deleted"
  | generatingBuildConfig _ => "Generating BuildConfig"
  | customField _ _ => "Custom field"
  | namesSanitized _ => "Sanitized names"

/-- The named values of an event. -/
def values : Event → List (String × LogValue)
  | fileRecognized name format => [("file", .plainText name), ("format", .plainText format.name)]
  | readingStylesheet name version =>
    [("file", .plainText name), ("version", .plainText version.logName)]
  | nameSkipped s =>
    [("scope", .quotedText s.scopeText), ("name", .quotedText s.name),
      ("reason", .quotedText s.reason.text)]
  | hiddenEntry path | excludedEntry path | linkToOther path | otherEntry path =>
    [("path", .plainText path.text)]
  | danglingLink path cause =>
    [("path", .plainText path.text), ("error", .plainText cause.message)]
  | generatingResources resources formats exclusions =>
    [("resources", .plainText resources.text), ("formats", .number formats),
      ("exclusions", .number exclusions)]
  | resourcesGenerated file fields classes skipped =>
    [("file", .plainText file.text), ("fields", .number fields), ("classes", .number classes),
      ("skipped", .number skipped)]
  | outputDeleted directory => [("dir", .plainText directory.text)]
  | generatingBuildConfig className => [("class", .plainText className)]
  | customField name value => [("name", .plainText name), ("value", .plainText value)]
  | buildConfigGenerated file => [("file", .plainText file.text)]
  | namesSanitized count => [("count", .number count)]

end Event

end JavaConstants
