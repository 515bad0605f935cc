/-!
# Usage errors

Why a command line is refused, or why it is answered by a text about the program instead of being
run.
-/

namespace JavaConstants

/-- Why a command line is not run. -/
inductive UsageError where
  /-- A flag is unknown, or an operand stands where none is taken. -/
  | unknownArgument
  /-- The command is unknown. -/
  | unknownCommand
  /-- There are flags but no command. -/
  | missingCommand
  /-- An operand is missing. -/
  | missingOperand
  /-- The value of a flag is missing. -/
  | missingValue
  /-- A flag is given twice. -/
  | repeatedFlag
  /-- A flag is given a value that it does not take. -/
  | surplusValue
  /-- The help text is asked for. -/
  | help
  /-- The version is asked for. -/
  | version
  /-- Nothing is given, so that the help text is shown. -/
  | helpForNothing
  deriving DecidableEq, Repr

end JavaConstants
