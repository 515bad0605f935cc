import JavaConstants.Settings.Basic
import JavaConstants.Settings.Layer

/-!
# Reading settings

Reads the choices of a project from its settings. A simple value of another kind is converted where
it has one meaning; a structure may be given by the list of its members in their order.
-/

namespace JavaConstants

namespace Setting

/-! ## Values -/

/-- The error of a simple value of a wrong kind. -/
def mismatch (s : Setting) (expected : String) : SettingsError :=
  .wrongKind s.found expected "" s.origin

/-- A truth value: numbers other than zero are true. -/
def bool (s : Setting) : Except SettingsError Bool :=
  match s with
  | scalar (.bool b) _ => .ok b
  | scalar (.integer i) _ => .ok (i ≠ 0)
  | scalar (.float x) _ => .ok !x.isZero
  | scalar (.string t) origin =>
    let word := Unicode.lower t
    if word = "1" ∨ word = "true" ∨ word = "on" ∨ word = "yes" then .ok true
    else if word = "0" ∨ word = "false" ∨ word = "off" ∨ word = "no" then .ok false
    else .error (.wrongKind (.string word) "a boolean" "" origin)
  | s => .error (s.mismatch "a boolean")

/-- A text: numbers and truth values are written out. -/
def text (s : Setting) : Except SettingsError String :=
  match s with
  | scalar (.bool b) _ => .ok (if b then "true" else "false")
  | scalar (.integer i) _ => .ok (integerText i)
  | scalar (.float x) _ => .ok x.text
  | scalar (.string t) _ => .ok t
  | s => .error (s.mismatch "a string")

/-- A path. -/
def path (s : Setting) : Except SettingsError Path := s.text.map (⟨·⟩)

/-- A value that may be unset. -/
def optional {α : Type} (read : Setting → Except SettingsError α) (s : Setting) :
    Except SettingsError (Option α) :=
  match s with
  | scalar .unset _ => .ok none
  | s => (read s).map some

/-- One of some keywords, without regard to case; a table of one member stands for its key. -/
def keyword {α : Type} (kind : String) (all : List α) (name : α → String) (s : Setting) :
    Except SettingsError α :=
  let find (word : String) : Except SettingsError α :=
    match all.find? fun a ↦ name a = Unicode.lower word with
    | some a => .ok a
    | none => .error (.unknownKeyword kind word)
  match s with
  | scalar (.string word) _ => find word
  | table [(word, _)] _ => find word
  | _ => .error (.notKeyword kind)

/-- The items of a list, from a position on. -/
def readItems {α : Type} (read : Setting → Except SettingsError α) :
    (position : Nat) → List Setting → Except SettingsError (List α)
  | _, [] => .ok []
  | i, s :: items => do
    let a ← (read s).mapError (·.atIndex i)
    let rest ← readItems read (i + 1) items
    .ok (a :: rest)

/-- A list. -/
def list {α : Type} (read : Setting → Except SettingsError α) (s : Setting) :
    Except SettingsError (List α) :=
  match s with
  | array items _ => readItems read 0 items
  | s => .error (.wrongShape s.found "a sequence")

/-- A map of texts, sorted by key. -/
def textMap (s : Setting) : Except SettingsError (List (String × String)) :=
  match s with
  | table members _ => do
    let pairs ← members.mapM fun (key, s) ↦ do
      let t ← s.text.mapError (·.under key)
      .ok (key, t)
    .ok (pairs.mergeSort fun a b ↦ a.1 ≤ b.1)
  | s => .error (.wrongShape s.found "a map")

/-! ## Structures -/

/-- A setting that can stand for a structure. -/
def container (kind : String) (s : Setting) : Except SettingsError Setting :=
  match s with
  | scalar _ _ => .error (.wrongShape s.found ("struct " ++ kind))
  | s => .ok s

/-- The member of a structure: the one under its key, or the one at its position in a list. -/
def memberAt? {α : Type} (s : Setting) (position : Nat) (key : String)
    (read : Setting → Except SettingsError α) : Except SettingsError (Option α) :=
  match s with
  | scalar _ _ => .ok none
  | array items _ =>
    match items[position]? with
    | some item => (read item).mapError (·.atIndex position) |>.map some
    | none => .ok none
  | s =>
    match s.member? key with
    | some member => (read member).mapError (·.under key) |>.map some
    | none => .ok none

/-- The member of a structure, or what holds where it is missing. -/
def memberOr {α : Type} (s : Setting) (position : Nat) (key : String) (default : α)
    (read : Setting → Except SettingsError α) : Except SettingsError α :=
  (s.memberAt? position key read).map (·.getD default)

/-- The error of a structure of `size` members that lacks the one at a position. -/
def missing (s : Setting) (position : Nat) (key kind : String) (size : Nat) : SettingsError :=
  match s with
  | array _ _ =>
    .tooShort position ("struct " ++ kind ++ " with " ++ toString size ++ " elements")
  | _ => .missingMember key

end Setting

/-- The options for stylesheets. -/
def CssOptions.ofSetting (s : Setting) : Except SettingsError CssOptions := do
  let s ← s.container "CssOptions"
  let d : CssOptions := {}
  pure {
    charset := ← s.memberOr 0 "charset" d.charset Setting.text
    version := ← s.memberOr 1 "css_version" d.version
      (Setting.keyword "CssVersion" CssVersion.all CssVersion.settingName)
    writeElementTypeSelector :=
      ← s.memberOr 2 "write_element_type_selector" d.writeElementTypeSelector Setting.bool
    writeClassSelector := ← s.memberOr 3 "write_class_selector" d.writeClassSelector Setting.bool
    writeIdSelector := ← s.memberOr 4 "write_id_selector" d.writeIdSelector Setting.bool }

/-- The options for JSON files. -/
def JsonOptions.ofSetting (s : Setting) : Except SettingsError JsonOptions := do
  let s ← s.container "JsonOptions"
  let d : JsonOptions := {}
  pure {
    recursive := ← s.memberOr 0 "recursive" d.recursive Setting.bool
    writeArray := ← s.memberOr 1 "write_array" d.writeArray Setting.bool }

/-- The options for properties files. -/
def PropertiesOptions.ofSetting (s : Setting) : Except SettingsError PropertiesOptions := do
  let s ← s.container "PropertiesOptions"
  pure {
    writeResourceBundle := ← s.memberOr 0 "write_resource_bundle" false Setting.bool }

/-- The settings of the resource class. -/
def ResourceSettings.ofSetting (s : Setting) : Except SettingsError ResourceSettings := do
  let s ← s.container "RConfig"
  let d : ResourceSettings := {}
  pure {
    packageName := ← s.memberOr 0 "package_name" d.packageName Setting.text
    className := ← s.memberOr 1 "class_name" d.className Setting.text
    resourcesDir := ← s.memberOr 2 "resources_dir" d.resourcesDir Setting.path
    outputDir := ← s.memberOr 3 "output_dir" d.outputDir Setting.path
    exclusions := ← s.memberOr 4 "exclusions" d.exclusions (Setting.list Setting.path)
    uppercaseFields := ← s.memberOr 5 "uppercase_fields" d.uppercaseFields Setting.bool
    lowercaseClasses := ← s.memberOr 6 "lowercase_classes" d.lowercaseClasses Setting.bool
    enableCss := ← s.memberOr 7 "enable_css" d.enableCss Setting.bool
    enableJson := ← s.memberOr 8 "enable_json" d.enableJson Setting.bool
    enableProperties := ← s.memberOr 9 "enable_properties" d.enableProperties Setting.bool
    css := ← s.memberOr 10 "css" d.css CssOptions.ofSetting
    json := ← s.memberOr 11 "json" d.json JsonOptions.ofSetting
    properties := ← s.memberOr 12 "properties" d.properties PropertiesOptions.ofSetting }

/-- A constant of the project. In a list the members are read until one is missing; in a table all
are read first. -/
def CustomField.ofSetting (s : Setting) : Except SettingsError CustomField := do
  let kind := "CustomField"
  let s ← s.container kind
  let name? ← s.memberAt? 0 "name" Setting.text
  let type? ← s.memberAt? 1 "type"
    (Setting.keyword "JavaType" JavaType.all JavaType.settingName)
  let value? ← s.memberAt? 2 "value" Setting.text
  match name?, type?, value? with
  | none, _, _ => .error (s.missing 0 "name" kind 3)
  | _, none, _ => .error (s.missing 1 "type" kind 3)
  | _, _, none => .error (s.missing 2 "value" kind 3)
  | some name, some type, some value => .ok ⟨name, type, value⟩

/-- The settings of the class of build constants. -/
def BuildSettings.ofSetting (s : Setting) : Except SettingsError BuildSettings := do
  let s ← s.container "BuildConfigConfig"
  let d : BuildSettings := {}
  let text? := Setting.optional Setting.text
  pure {
    packageName := ← s.memberOr 0 "package_name" d.packageName Setting.text
    className := ← s.memberOr 1 "class_name" d.className Setting.text
    outputDir := ← s.memberOr 2 "output_dir" d.outputDir Setting.path
    appName := ← s.memberOr 3 "app_name" d.appName Setting.text
    groupId := ← s.memberOr 4 "group_id" d.groupId Setting.text
    appVersion := ← s.memberOr 5 "app_version" d.appVersion Setting.text
    debug := ← s.memberOr 6 "debug" d.debug Setting.bool
    artifactId := ← s.memberOr 7 "artifact_id" d.artifactId text?
    desc := ← s.memberOr 8 "desc" d.desc text?
    email := ← s.memberOr 9 "email" d.email text?
    url := ← s.memberOr 10 "url" d.url text?
    fields := ← s.memberOr 11 "fields" d.fields (Setting.list CustomField.ofSetting) }

/-- The settings of the log. -/
def LogSettings.ofSetting (s : Setting) : Except SettingsError LogSettings := do
  let s ← s.container "LoggingConfig"
  let d : LogSettings := {}
  pure {
    enabled := ← s.memberOr 0 "enabled" d.enabled Setting.bool
    level := ← s.memberOr 1 "level" d.level Setting.text
    format := ← s.memberOr 2 "format" d.format Setting.text
    output := ← s.memberOr 3 "output" d.output Setting.text
    file := ← s.memberOr 4 "file" d.file (Setting.optional Setting.path)
    color := ← s.memberOr 5 "color" d.color Setting.bool
    modules := ← s.memberOr 6 "modules" d.modules Setting.textMap }

/-- All settings. -/
def Settings.ofSetting (s : Setting) : Except SettingsError Settings := do
  let s ← s.container "GeneratorConfig"
  let d : Settings := {}
  pure {
    r := ← s.memberOr 0 "r" d.r ResourceSettings.ofSetting
    buildConfig := ← s.memberOr 1 "build_config" d.buildConfig BuildSettings.ofSetting
    logging := ← s.memberOr 2 "logging" d.logging LogSettings.ofSetting }

end JavaConstants
