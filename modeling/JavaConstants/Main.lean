import JavaConstants.CommandLine.Usage
import JavaConstants.Disk
import JavaConstants.Run
import Std.Time.Zoned

/-!
# The program

Reads the arguments, the environment, the time and the part of the disk that a run may look at; then
runs the command line, writes back what it changed and prints what it says.
-/

namespace JavaConstants

/-! ## What a run may look at -/

/-- The paths that tell the settings of a command line. -/
def CommandLine.settingsPaths (line : CommandLine) : List Path :=
  let file := line.projectDir.resolveAgainst (line.settingsFile.getD ⟨settingsFileName⟩)
  [line.projectDir, file, ⟨file.text ++ ".toml"⟩]

/-- The paths of a project on which its checks and its log depend. -/
def Project.checkedPaths (p : Project) (env : Environment) (line : CommandLine)
    (files : FileSystem) : List Path :=
  let logFile := resolveLogFile files env none (line.log.applyTo p.settings.logging).file
    (some p.directory)
  logFile.toOption.toList ++ match line.command with
    | .resources a =>
      let s := a.applyTo p.directory p.settings.r
      s.resourcesDir :: s.outputDir :: s.exclusions
    | .buildConfig a =>
      match a.applyTo p.directory p.settings.buildConfig with
      | .ok s => [s.outputDir]
      | .error _ => []
    | _ => []

/-- The directories of which a run needs everything, provided that its checks pass. -/
def Project.wholeDirectories (p : Project) (command : Command) (files : FileSystem) : List Path :=
  match command with
  | .resources a =>
    let s := a.applyTo p.directory p.settings.r
    if (s.check [p.directory] files).toOption.isSome then [s.resourcesDir, s.outputDir] else []
  | .buildConfig a =>
    match a.applyTo p.directory p.settings.buildConfig with
    | .ok s => if (s.check [p.directory] files).toOption.isSome then [s.outputDir] else []
    | .error _ => []
  | _ => []

/-- Whether the bytes of a resource file may be needed. -/
def isReadable (name : String) : Bool :=
  [ResourceFormat.css, .json, .properties].any fun f ↦
    Unicode.lower (extension name) = Unicode.lower f.extension

/-- The part of the disk that a run may look at. -/
def CommandLine.readDisk (line : CommandLine) (env : Environment) : IO FileSystem := do
  let files ← Disk.loadAll (← Disk.start) line.settingsPaths
  match Project.load files env line.projectDir line.settingsFile with
  | .error _ => return files
  | .ok p =>
    let files ← Disk.loadAll files (p.checkedPaths env line files)
    (p.wholeDirectories line.command files).foldlM (Disk.load ⟨true, isReadable⟩) files

/-! ## The environment and the time -/

/-- The variables of the environment, from characters in which a NUL ends each. -/
def Environment.ofChars (cs : List Char) : Environment :=
  ((cs.splitOn '\x00').map fun cs ↦ (cs.takeWhile (· ≠ '='), cs.dropWhile (· ≠ '=')))
    |>.filterMap fun (name, value) ↦
      if value = [] then none else some (String.ofList name, String.ofList (value.drop 1))

/-- The environment of the program. -/
def readEnvironment : IO Environment := do
  return .ofChars (utf8Lossy 0 (← IO.FS.readBinFile "/proc/self/environ").toList)

/-- A moment of the calendar. -/
def DateTime.ofCalendar (t : Std.Time.PlainDateTime) : DateTime where
  year := t.year
  month := t.month.toNat
  day := t.day.toNat
  hour := t.hour.toNat
  minute := t.minute.toNat
  second := t.second.toNat
  nanosecond := t.nanosecond.toNat

/-- The time. -/
def readClock : IO Clock := do
  let stamp ← Std.Time.Timestamp.now
  let now := DateTime.ofCalendar (.ofWallTime (.ofTimestamp stamp .zero))
  try return { now := now, here := .ofCalendar (← Std.Time.PlainDateTime.now) }
  catch _ => return { now := now }

/-! ## Running -/

/-- Runs a command line; gives the exit code. The time that a report shows is that of a first run,
whose outcome is dropped. -/
def CommandLine.runOnDisk (line : CommandLine) : IO UInt32 := do
  let begun ← IO.monoMsNow
  let env ← readEnvironment
  let clock ← readClock
  let files ← line.readDisk env
  let first := line.run env clock files
  let outcome ← if first.code = 0 then do
      let elapsed := (← IO.monoMsNow) - begun
      pure (line.run env { clock with elapsed := elapsed } files)
    else pure first
  Disk.store files outcome.files
  IO.print outcome.stdout
  IO.eprint outcome.stderr
  return outcome.code.toUInt32

end JavaConstants

open JavaConstants in
/-- Runs the command line that the arguments spell. -/
def main (arguments : List String) : IO UInt32 :=
  match CommandLine.parse arguments with
  | .ok line => line.runOnDisk
  | .error e => do
    if e.isAnswer then IO.println e.text else IO.eprintln e.text
    return e.code.toUInt32
