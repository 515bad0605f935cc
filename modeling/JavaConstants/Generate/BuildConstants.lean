import JavaConstants.Decimal.Binary
import JavaConstants.Generate.DateTime
import JavaConstants.Generate.Workspace
import JavaConstants.Settings.Basic

/-!
# The class of build constants

Builds a class from the settings alone: the standard constants, then those a project adds, whose
values must suit their types.
-/

namespace JavaConstants

/-! ## Typed values -/

/-- The integer a text spells, if it fits into a number of bits in two's complement. -/
def boundedInteger? (bits : Nat) (s : String) : Option Int :=
  (parseInteger? s).filter (fitsWord bits)

/-- The constant of generated source for the finite number a text spells in a binary format. -/
def floatText? (f : BinaryFormat) (s : String) : Option String := do
  let b ← f.nearest? (← Decimal.parse? s)
  some (b.shortest f).constantText

namespace CustomField

/-- The value of a constant as source writes it, and how; none where the value does not suit the
type. -/
def literal? (c : CustomField) : Option (String × ValueKind) :=
  let trimmed := Unicode.trimBlanks c.value
  match c.type with
  | .string => some (c.value, .text)
  | .char =>
    match c.value.toList with
    | [ch] => if ch.toNat ≤ 0xFFFF then some (c.value, .character) else none
    | _ => none
  | .boolean =>
    if trimmed = "true" ∨ trimmed = "false" then some (trimmed, .verbatim) else none
  | .byte => (boundedInteger? 8 trimmed).map fun i ↦ (integerText i, .verbatim)
  | .short => (boundedInteger? 16 trimmed).map fun i ↦ (integerText i, .verbatim)
  | .int => (boundedInteger? 32 trimmed).map fun i ↦ (integerText i, .verbatim)
  | .long => (boundedInteger? 64 trimmed).map fun i ↦ (integerText i ++ "L", .verbatim)
  | .float => (floatText? .single trimmed).map fun s ↦ (s ++ "f", .verbatim)
  | .double => (floatText? .double trimmed).map fun s ↦ (s, .verbatim)

/-- The constant that is declared. -/
def field (c : CustomField) : Except ConfigurationError Field :=
  match c.literal? with
  | some (value, kind) => .ok ⟨c.name, c.type, value, kind⟩
  | none => .error (.fieldValueInvalid c.type c.name c.value)

/-- Checks the name and the value of a constant. -/
def check (c : CustomField) : Except ConfigurationError Unit := do
  if !isName c.name then .error (.fieldNameInvalid c.name)
  let _ ← c.field

end CustomField

/-! ## The class -/

namespace BuildSettings

/-- Checks everything that must hold before a file is written. -/
def check (s : BuildSettings) (guarded : List Path) (fs : FileSystem) :
    Except ConfigurationError Unit := do
  checkPackageName s.packageName
  checkClassName s.className
  s.fields.forM CustomField.check
  checkOutput fs s.outputDir guarded

/-- The constants that every class of build constants has, and the optional ones that are set. -/
def standardFields (s : BuildSettings) : List Field :=
  [.ofText "NAME" s.appName, .ofText "GROUP" s.groupId, .ofText "VERSION" s.appVersion,
    ⟨"DEBUG", .boolean, if s.debug then "true" else "false", .verbatim⟩] ++
  [("ARTIFACT", s.artifactId), ("DESC", s.desc), ("EMAIL", s.email), ("URL", s.url)].filterMap
    fun (name, value) ↦ value.map (.ofText name)

/-- The class with the standard constants alone. -/
def standardClass (s : BuildSettings) : ClassNode :=
  s.standardFields.foldl ClassNode.addField (.empty s.className)

/-- Adds constants to a class; gives the class and the names left out because they were taken. -/
def addCustom (className : String) (root : ClassNode) (skipped : List Skipped) :
    List Field → ClassNode × List Skipped
  | [] => (root, skipped)
  | f :: fs =>
    if root.hasField f.name then
      addCustom className root (skipped ++ [⟨[className], f.name, .duplicate⟩]) fs
    else addCustom className (root.addField f) skipped fs

/-- The events of adding constants to a class. -/
def customEvents (className : String) (root : ClassNode) : List Field → List Event
  | [] => []
  | f :: fs =>
    .customField f.name f.value ::
      (if root.hasField f.name then [.nameSkipped ⟨[className], f.name, .duplicate⟩] else []) ++
      customEvents className (root.addField f) fs

/-- Builds the class without writing anything. -/
def build (s : BuildSettings) (guarded : List Path) (clock : Clock) :
    Generating (SourceFile × List Skipped) := do
  Generating.check (s.check guarded (← get).files)
  let fields ← Generating.check (s.fields.mapM CustomField.field)
  modify fun w ↦
    { w with events := w.events ++ customEvents s.className s.standardClass fields }
  let (root, skipped) := addCustom s.className s.standardClass [] fields
  pure (⟨s.packageName, some clock.here.comment, root⟩, skipped)

/-- Builds the class and replaces the output directory by it. -/
def generate (s : BuildSettings) (guarded : List Path) (clock : Clock) :
    Generating GenerationReport := do
  Generating.log (.generatingBuildConfig s.className)
  let (file, skipped) ← s.build guarded clock
  refreshOutput s.outputDir
  let path ← file.writeTo s.outputDir
  Generating.log (.buildConfigGenerated path)
  pure (file.report path skipped clock.elapsed)

end BuildSettings

end JavaConstants
