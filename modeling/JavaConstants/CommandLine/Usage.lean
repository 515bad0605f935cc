import JavaConstants.CommandLine.Basic

/-!
# Usage texts

What is printed in place of running a command line that is refused or that asks about the program.
-/

namespace JavaConstants

/-- The name of the program with its version. -/
def versionText : String := "rgen 0.4.0"

namespace FlagKind

/-- How the value of a flag is shown behind its name. -/
def placeholder : FlagKind → String
  | switch => ""
  | text | texts => " <TEXT>"
  | path | paths => " <PATH>"

end FlagKind

namespace CommandShape

/-- One line for each flag. -/
def flagLines (s : CommandShape) : String :=
  String.join (s.flags.map fun f ↦ "  --" ++ f.name ++ f.kind.placeholder ++ "\n")

/-- The flags of a command, with the names of its operands. -/
def helpText (s : CommandShape) (name : String) : String :=
  name ++ (if s.takesOperands then " <NAMES>..." else "") ++ ":\n" ++ s.flagLines

end CommandShape

/-- The help text: the commands with the flags of each, and the flags of all. -/
def helpText : String :=
  "Generate Java R and BuildConfig classes from project resources\n\n" ++
    "Usage: rgen [OPTIONS] <COMMAND>\n\n" ++
    String.join (commandShapes.map fun (name, s) ↦
      CommandShape.helpText
        { s with flags := s.flags.filter fun f ↦ !commonFlags.contains f } name ++ "\n") ++
    CommandShape.helpText { flags := commonFlags } "Options"

namespace UsageError

/-- Whether the program was asked about rather than used wrongly. -/
def isAnswer : UsageError → Bool
  | help | version => true
  | _ => false

/-- The exit code of a command line that is not run. -/
def code (e : UsageError) : Nat := if e.isAnswer then 0 else 2

/-- The text that is printed or reported. -/
def text : UsageError → String
  | unknownArgument => "error: unexpected argument found"
  | unknownCommand => "error: unrecognized subcommand"
  | missingCommand => "error: a subcommand is required"
  | missingOperand => "error: a required argument was not provided"
  | missingValue => "error: a value is required for an argument"
  | repeatedFlag => "error: an argument cannot be used multiple times"
  | surplusValue => "error: unexpected value for an argument found"
  | version => versionText
  | help | helpForNothing => helpText

end UsageError

end JavaConstants
