import JavaConstants.Log.Basic
import JavaConstants.Project

/-!
# Runs

A whole run of the program: from the arguments, the environment and the files to the exit code, the
two outputs and the files as they are left.
-/

namespace JavaConstants

/-- What a run leaves. -/
structure Outcome where
  /-- The exit code. -/
  code : Nat
  /-- What is printed. -/
  stdout : String
  /-- What is reported. -/
  stderr : String
  /-- The files. -/
  files : FileSystem

/-- A run that stops before its command starts. -/
def Outcome.stopped (stage : String) (e : Error) (files : FileSystem) : Outcome :=
  ⟨1, "", stage ++ ": " ++ e.message ++ "\n", files⟩

/-- Runs the command of a project with an open log. -/
def Project.run (p : Project) (log : Log) (clock : Clock) (command : Command)
    (files : FileSystem) : Outcome :=
  let finish (w : Workspace) (code : Nat) (out err : String) : Outcome :=
    let lines := log.lines clock.now w.events
    ⟨code, (if log.output.stdout then lines else "") ++ out,
      (if log.output.stderr then lines else "") ++ err, log.writeTo w.files lines⟩
  match (p.execute clock command).run ⟨files, []⟩ with
  | .ok out w => finish w 0 (out ++ "\n") ""
  | .error e w => finish w 1 "" ("Error: " ++ e.message ++ "\n")

/-- Runs a command line. -/
def CommandLine.run (line : CommandLine) (env : Environment) (clock : Clock)
    (files : FileSystem) : Outcome :=
  match Project.load files env line.projectDir line.settingsFile with
  | .error e => .stopped "Error loading configuration" e files
  | .ok p =>
    match Log.start files env (line.log.applyTo p.settings.logging) p.directory with
    | (.error e, files) => .stopped "Error initializing logging" (.configuration e) files
    | (.ok log, files) => p.run log clock line.command files

end JavaConstants
