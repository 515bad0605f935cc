import JavaConstants.Charset.Basic
import JavaConstants.Json.Parser
import JavaConstants.Resource.Harvest

/-!
# Extracting names from resource files

Turns one resource file into constants. The format adapters are tried in their order until one knows
the file by its extension; it reads the whole file before it writes anything.
-/

namespace JavaConstants

/-- A resource file: the path it is read from, its name, and its bytes if they can be read. -/
structure ResourceFile where
  /-- The path as messages show it. -/
  path : Path
  /-- The name. -/
  name : String
  /-- The bytes, or the reason why they cannot be read. -/
  content : Except OsError (List UInt8)

namespace ResourceFile

/-- The bytes of a file. -/
def read (f : ResourceFile) : Except Error (List UInt8) := f.content.mapError (.file f.path)

/-- The failure of a file whose text is broken. -/
def broken (f : ResourceFile) (e : ResourceError) : Error := .resource f.path e

end ResourceFile

/-! ## Stylesheets -/

/-- The charset that stylesheets are read in. -/
def CssOptions.charset? (o : CssOptions) : Except Error Charset :=
  match Charset.ofLabel? o.charset with
  | some c => .ok c
  | none => .error (.configuration (.charsetUnknown o.charset))

/-- The keys that the first members of selectors stand for: the name of a class or of an ID, or the
member as it is. -/
def CssOptions.keys (o : CssOptions) (members : List String) : List String :=
  members.filterMap fun member ↦
    match member.toList with
    | '.' :: name => if o.writeClassSelector then some (String.ofList name) else none
    | '#' :: name => if o.writeIdSelector then some (String.ofList name) else none
    | _ => if o.writeElementTypeSelector then some member else none

/-! ## Properties files -/

/-- Decodes a properties file: as UTF-8 without a byte order mark if it is well-formed, and as
windows-1252 otherwise. -/
def Properties.decode (bytes : List UInt8) : List Char :=
  match utf8Strict? 0 bytes with
  | some cs => dropByteOrderMark cs
  | none => Charset.windows1252.decode bytes

/-- The bundle a file belongs to: what stands before the last underscore of its base name, if two
characters follow it. A hidden file belongs to none. -/
def bundleName? (fileName : String) : Option String :=
  if isHidden fileName then none
  else
    let base := (baseName fileName).toList
    let locale := (base.reverse.takeWhile (· ≠ '_')).length
    if '_' ∈ base ∧ locale = 2 then some (String.ofList (base.dropLast.dropLast.dropLast))
    else none

namespace Harvest

/-- Writes the keys of a properties file: into the class of its bundle, or into the class at the
scope. -/
def addProperties (o : PropertiesOptions) (uppercase lowercase : Bool) (scope : List String)
    (fileName : String) (h : Harvest) (keys : List String) : Harvest :=
  match if o.writeResourceBundle then bundleName? fileName else none with
  | none => h.addKeys uppercase scope keys
  | some bundle =>
    let className := if lowercase then Unicode.lower bundle else bundle
    match identifier? className with
    | some name => (h.enter (scope ++ [name])).addKeys uppercase (scope ++ [name]) keys
    | none => h.skip scope className .unsanitizable

end Harvest

/-! ## Adapters -/

/-- The steps that read a file and write into a harvest. -/
def liftFile {α : Type} (x : Except Error α) : Harvesting α :=
  match x with
  | .ok a => pure a
  | .error e => throw e

/-- Extracts the keys of a file that an adapter knows. -/
def FormatAdapter.extract (a : FormatAdapter) (options : ExtractOptions) (scope : List String)
    (f : ResourceFile) : Harvesting Unit :=
  match a with
  | .css o => do
    let charset ← liftFile o.charset?
    let bytes ← liftFile f.read
    modify (·.log (.readingStylesheet f.name o.version))
    let members ← liftFile
      ((Stylesheet.selectorMembers (String.ofList (charset.decode bytes))).mapError
        (f.broken <| .css ·))
    modify (·.addKeys options.uppercaseFields scope (o.keys members))
  | .json o => do
    let bytes ← liftFile f.read
    let value ← liftFile ((Json.parse bytes).mapError (f.broken <| .json ·))
    match value with
    | .object members =>
      modify (·.addKeys options.uppercaseFields scope (Json.keysOfMembers o members))
    | _ => throw (f.broken .jsonRoot)
  | .properties o => do
    let bytes ← liftFile f.read
    let entries ← liftFile
      ((Properties.parse (String.ofList (Properties.decode bytes))).mapError
        (f.broken <| .properties ·))
    modify fun h ↦ h.addProperties o options.uppercaseFields options.lowercaseClasses scope f.name
      (entries.map (·.1))

/-- Tries adapters in their order on a file; tells whether one knew it. -/
def extractWith (options : ExtractOptions) (scope : List String) (f : ResourceFile) :
    List FormatAdapter → Harvesting Bool
  | [] => pure false
  | a :: adapters =>
    if extension f.name = a.format.extension then do
      modify (·.log (.fileRecognized f.name a.format))
      a.extract options scope f
      pure true
    else extractWith options scope f adapters

/-- Extracts the keys of a file with the adapter that knows it; tells whether there is one. -/
def extractFile (options : ExtractOptions) (scope : List String) (f : ResourceFile) :
    Harvesting Bool :=
  extractWith options scope f options.adapters

end JavaConstants
