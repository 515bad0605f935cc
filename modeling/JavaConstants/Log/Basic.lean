import JavaConstants.Error
import JavaConstants.FileSystem.Edit
import JavaConstants.Log.Filter
import JavaConstants.Log.Line
import JavaConstants.Settings.Basic
import JavaConstants.Settings.Layer

/-!
# Logs

What a log shows, in which format and where. Variables of the environment win over the settings,
into which the flags of the command line have gone already.
-/

namespace JavaConstants

/-- Where log lines go. -/
structure LogOutput where
  /-- To the standard output. -/
  stdout : Bool := false
  /-- To the standard error. -/
  stderr : Bool := false
  /-- To the log file. -/
  file : Bool := false
  deriving DecidableEq, Repr

/-- The format that a word names. -/
def LogFormat.parse (s : String) : Except ConfigurationError LogFormat :=
  if s = "text" then .ok .text
  else if s = "json" then .ok .json
  else .error (.logFormatInvalid s)

/-- The output that a word names. -/
def LogOutput.parse (s : String) : Except ConfigurationError LogOutput :=
  if s = "stdout" then .ok { stdout := true }
  else if s = "stderr" then .ok { stderr := true }
  else if s = "file" then .ok { file := true }
  else if s = "file+stderr" then .ok { stderr := true, file := true }
  else if s = "both" then .ok { stdout := true, stderr := true }
  else .error (.logOutputInvalid s)

namespace LogSettings

/-- The filter of a log: that of the environment if it is well-formed, else that of the settings
with the levels for parts of the program. -/
def filter (s : LogSettings) (env : Environment) : Except ConfigurationError LogFilter :=
  match (env.get? "RGEN_LOG").bind fun v ↦ (LogFilter.parse v).toOption with
  | some f => .ok f
  | none =>
    if s.level = "off" then .ok ⟨[{ threshold := none }]⟩
    else do
      let f ← (LogFilter.parse s.level).mapError fun e ↦ .logLevelInvalid s.level e.message
      s.modules.foldlM (fun f (part, level) ↦
        ((LogDirective.parse (part ++ "=" ++ level)).map f.add).mapError fun e ↦
          .logDirectiveInvalid e.message) f

/-- The format of a log: that of the environment if it is known, else that of the settings. -/
def lineFormat (s : LogSettings) (env : Environment) : Except ConfigurationError LogFormat :=
  match (env.get? "RGEN_LOG_FORMAT").bind fun v ↦ (LogFormat.parse v).toOption with
  | some f => .ok f
  | none => LogFormat.parse s.format

/-- The output of a log: that of the environment, or else that of the settings. -/
def destinations (s : LogSettings) (env : Environment) : Except ConfigurationError LogOutput :=
  LogOutput.parse ((env.get? "RGEN_LOG_OUTPUT").getD s.output)

end LogSettings

/-! ## The log file -/

/-- The home directory of a user without the variable `HOME`. -/
def fallbackHome : Path := ⟨"/root"⟩

/-- A path unless it is empty. -/
def Path.nonEmpty? (p : Path) : Option Path := if p.text = "" then none else some p

/-- The value of a variable as a path. -/
def Environment.path? (env : Environment) (name : String) : Option Path :=
  (env.get? name).map (⟨·⟩)

/-- The directory in which this program keeps its state. -/
def Environment.stateDirectory (env : Environment) : Path :=
  let home := ((env.path? "HOME").bind Path.nonEmpty?).getD fallbackHome
  let base := match env.path? "XDG_STATE_HOME" with
    | some p => if p.isAbsolute then p else home.join ⟨".local/state"⟩
    | none => home.join ⟨".local/state"⟩
  base.join ⟨"rgen"⟩

/-- The log file that is used where none is chosen: one for each project. -/
def defaultLogFile (fs : FileSystem) (env : Environment) (project : Option Path) :
    Except ConfigurationError Path := do
  let names ← match project with
    | none => pure []
    | some p => (fs.canonical p).mapError .projectUnresolved
  .ok (names.foldl (fun p name ↦ p.join ⟨name⟩) env.stateDirectory |>.join ⟨"rgen.log"⟩)

/-- The log file: the one given, that of the environment, that of the settings, or the one of the
project. -/
def resolveLogFile (fs : FileSystem) (env : Environment) (given chosen project : Option Path) :
    Except ConfigurationError Path :=
  match given.bind Path.nonEmpty? <|> (env.path? "RGEN_LOG_FILE").bind Path.nonEmpty? <|>
      chosen.bind Path.nonEmpty? with
  | some p => .ok p
  | none => defaultLogFile fs env project

/-- Opens a log file, with the directories missing above it; gives its place. What was created stays
where a later step fails. -/
def FileSystem.openLogFile (fs : FileSystem) (p : Path) :
    Except ConfigurationError (List String) × FileSystem :=
  match (p.parent?.map fs.createDirectories).getD (.ok () fs) with
  | .error e fs => (.error (.logDirectoryFailed e), fs)
  | .ok () fs =>
    match fs.append p [] with
    | .error e => (.error (.logFileFailed p e), fs)
    | .ok opened => ((opened.canonical p).mapError (.logFileFailed p), opened)

/-! ## Open logs -/

/-- A log that is open. -/
structure Log where
  /-- Which events are shown. -/
  filter : LogFilter := {}
  /-- The format of the lines. -/
  format : LogFormat := .text
  /-- Whether lines are coloured. -/
  coloured : Bool := false
  /-- Where lines go. -/
  output : LogOutput := {}
  /-- The place of the log file. -/
  file : Option (List String) := none

namespace Log

/-- Opens the log of a project. -/
def start (fs : FileSystem) (env : Environment) (s : LogSettings) (project : Path) :
    Except ConfigurationError Log × FileSystem :=
  if !s.enabled then (.ok {}, fs)
  else
    let choices : Except ConfigurationError Log := do
      let filter ← s.filter env
      let format ← s.lineFormat env
      let output ← s.destinations env
      .ok ⟨filter, format, s.color && !output.file, output, none⟩
    match choices with
    | .error e => (.error e, fs)
    | .ok log =>
      if log.output.file then
        match resolveLogFile fs env none s.file (some project) with
        | .error e => (.error e, fs)
        | .ok p =>
          let (place, fs) := fs.openLogFile p
          (place.map fun names ↦ { log with file := some names }, fs)
      else (.ok log, fs)

/-- The lines of the events that a log shows. -/
def lines (log : Log) (time : DateTime) (events : List Event) : String :=
  String.join ((events.filter log.filter.admits).map fun e ↦ e.line log.format log.coloured time)

/-- The files with lines written at the end of the log file, if it is still there. -/
def writeTo (log : Log) (fs : FileSystem) (lines : String) : FileSystem :=
  match log.file with
  | none => fs
  | some names =>
    match fs.node? names with
    | some (.file content) => fs.insert names (.file (content ++ utf8Bytes lines))
    | _ => fs

end Log

end JavaConstants
