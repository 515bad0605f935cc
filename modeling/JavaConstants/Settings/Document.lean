import JavaConstants.Json.Printer
import JavaConstants.Settings.Basic
import JavaConstants.Settings.Layer
import JavaConstants.Toml.Printer

/-!
# Settings as documents

Settings as one document with a member for each choice, the JSON and TOML texts of it, and the layer
of the values that hold where nothing is chosen.
-/

namespace JavaConstants

/-- The document of the options for stylesheets. -/
def CssOptions.document (o : CssOptions) : Json.Value := .object [
  ("charset", .string o.charset),
  ("css_version", .string o.version.settingName),
  ("write_element_type_selector", .bool o.writeElementTypeSelector),
  ("write_class_selector", .bool o.writeClassSelector),
  ("write_id_selector", .bool o.writeIdSelector)]

/-- The document of the options for JSON files. -/
def JsonOptions.document (o : JsonOptions) : Json.Value := .object [
  ("recursive", .bool o.recursive),
  ("write_array", .bool o.writeArray)]

/-- The document of the options for properties files. -/
def PropertiesOptions.document (o : PropertiesOptions) : Json.Value := .object [
  ("write_resource_bundle", .bool o.writeResourceBundle)]

/-- The document of the settings of the resource class. -/
def ResourceSettings.document (s : ResourceSettings) : Json.Value := .object [
  ("package_name", .string s.packageName),
  ("class_name", .string s.className),
  ("resources_dir", .string s.resourcesDir.text),
  ("output_dir", .string s.outputDir.text),
  ("exclusions", .array (s.exclusions.map fun p ↦ .string p.text)),
  ("uppercase_fields", .bool s.uppercaseFields),
  ("lowercase_classes", .bool s.lowercaseClasses),
  ("enable_css", .bool s.enableCss),
  ("enable_json", .bool s.enableJson),
  ("enable_properties", .bool s.enableProperties),
  ("css", s.css.document),
  ("json", s.json.document),
  ("properties", s.properties.document)]

/-- The document of a constant of the project. -/
def CustomField.document (f : CustomField) : Json.Value := .object [
  ("name", .string f.name),
  ("type", .string f.type.settingName),
  ("value", .string f.value)]

/-- The member of an optional text; none where it is absent. -/
def optionalMember (key : String) (value : Option String) : List (String × Json.Value) :=
  value.toList.map fun s ↦ (key, .string s)

/-- The document of the settings of the class of build constants. -/
def BuildSettings.document (s : BuildSettings) : Json.Value := .object (
  [("package_name", .string s.packageName),
    ("class_name", .string s.className),
    ("output_dir", .string s.outputDir.text),
    ("app_name", .string s.appName),
    ("group_id", .string s.groupId),
    ("app_version", .string s.appVersion),
    ("debug", .bool s.debug)] ++
  optionalMember "artifact_id" s.artifactId ++ optionalMember "desc" s.desc ++
  optionalMember "email" s.email ++ optionalMember "url" s.url ++
  [("fields", .array (s.fields.map CustomField.document))])

/-- The document of the settings of the log. -/
def LogSettings.document (s : LogSettings) : Json.Value := .object [
  ("enabled", .bool s.enabled),
  ("level", .string s.level),
  ("format", .string s.format),
  ("output", .string s.output),
  ("file", s.file.elim .null fun p ↦ .string p.text),
  ("color", .bool s.color),
  ("modules", .object (s.modules.map fun (part, level) ↦ (part, .string level)))]

/-- The document of all settings. -/
def Settings.document (s : Settings) : Json.Value := .object [
  ("r", s.r.document),
  ("build_config", s.buildConfig.document),
  ("logging", s.logging.document)]

/-! ## Texts -/

mutual

/-- A document as TOML; nulls vanish. -/
def Toml.ofDocument? : Json.Value → Option Toml.Value
  | .null => none
  | .bool b => some (.boolean b)
  | .number n => some (.integer n)
  | .string s => some (.string s)
  | .array items => some (.array (Toml.itemsOfDocument items))
  | .object members => some (.table (Toml.membersOfDocument members))

/-- The items of an array as TOML. -/
def Toml.itemsOfDocument : List Json.Value → List Toml.Value
  | [] => []
  | v :: vs => (Toml.ofDocument? v).toList ++ Toml.itemsOfDocument vs

/-- The members of an object as TOML. -/
def Toml.membersOfDocument : List (String × Json.Value) → List (String × Toml.Value)
  | [] => []
  | (key, v) :: ms =>
    ((Toml.ofDocument? v).map fun v ↦ (key, v)).toList ++ Toml.membersOfDocument ms

end

/-- Settings as JSON. -/
def Settings.jsonText (s : Settings) : String := Json.pretty s.document

/-- Settings as TOML. -/
def Settings.tomlText (s : Settings) : String :=
  match Toml.ofDocument? s.document with
  | some (.table members) => Toml.print members
  | _ => ""

/-! ## The layer of the defaults -/

mutual

/-- The settings of a document. Empty containers give none. -/
def Setting.ofDocument? : Json.Value → Option Setting
  | .null => some .unset
  | .bool b => some (.scalar (.bool b) none)
  | .number n => some (.scalar (.integer n) none)
  | .string s => some (.scalar (.string s) none)
  | .array [] => none
  | .array (v :: vs) =>
    some (.array ((Setting.ofDocument? v).toList ++ Setting.itemsOfDocument vs) none)
  | .object [] => none
  | .object ((key, v) :: ms) =>
    some (.table (((Setting.ofDocument? v).map fun s ↦ (key, s)).toList ++
      Setting.membersOfDocument ms) none)

/-- The settings of the items of an array. -/
def Setting.itemsOfDocument : List Json.Value → List Setting
  | [] => []
  | v :: vs => (Setting.ofDocument? v).toList ++ Setting.itemsOfDocument vs

/-- The settings of the members of an object. -/
def Setting.membersOfDocument : List (String × Json.Value) → List (String × Setting)
  | [] => []
  | (key, v) :: ms =>
    ((Setting.ofDocument? v).map fun s ↦ (key, s)).toList ++ Setting.membersOfDocument ms

end

/-- The values that hold where nothing is chosen. -/
def Setting.defaults : Setting :=
  (Setting.ofDocument? ({} : Settings).document).getD .emptyTable

end JavaConstants
