import JavaConstants.CommandLine.Error

/-!
# Scanning a command line

Reads arguments by the flags that a command declares. The value of a flag is the argument behind
it; a flag and its value are checked once the argument behind them is a flag or an operand or the
arguments end, so that an unknown argument is reported first.
-/

namespace JavaConstants

/-- What a flag does. -/
inductive FlagKind where
  /-- It stands alone. -/
  | switch
  /-- It takes a text. -/
  | text
  /-- It takes a path, which is not empty. -/
  | path
  /-- It takes a text and may be repeated. -/
  | texts
  /-- It takes a path and may be repeated. -/
  | paths
  deriving DecidableEq, Repr

namespace FlagKind

/-- Whether a flag takes a value. -/
def takesValue : FlagKind → Bool
  | switch => false
  | _ => true

/-- Whether a flag may be repeated. -/
def isRepeatable : FlagKind → Bool
  | texts | paths => true
  | _ => false

/-- Whether the value of a flag is a path. -/
def isPath : FlagKind → Bool
  | path | paths => true
  | _ => false

end FlagKind

/-- A flag by its name. -/
structure Flag where
  /-- The name, without the dashes. -/
  name : String
  /-- What it does. -/
  kind : FlagKind
  deriving DecidableEq, Repr

/-- What a command takes. -/
structure CommandShape where
  /-- The flags. -/
  flags : List Flag
  /-- Whether there is a flag that asks for the version. -/
  hasVersion : Bool := false
  /-- Whether operands are taken. -/
  takesOperands : Bool := false
  /-- The commands that may follow. -/
  commands : List String := []

/-- A state of scanning. -/
structure Scan where
  /-- The flags given with their values, in order; a switch has an empty one. -/
  given : List (String × String) := []
  /-- The operands. -/
  operands : List String := []
  /-- A flag that is still to be checked, with its value if that has been read. -/
  pending : Option (Flag × Option String) := none
  /-- Whether only operands may follow. -/
  operandsOnly : Bool := false

namespace Scan

/-- Whether a flag has been given. -/
def has (s : Scan) (name : String) : Bool := s.given.any (·.1 = name)

/-- The value of a flag. -/
def value? (s : Scan) (name : String) : Option String := (s.given.find? (·.1 = name)).map (·.2)

/-- The values of a flag that may be repeated. -/
def values (s : Scan) (name : String) : List String :=
  (s.given.filter (·.1 = name)).map (·.2)

/-- Whether the next argument is the value of a flag. -/
def isAwaiting (s : Scan) : Bool := s.pending.any (·.2.isNone)

/-- Adds a flag with its value. -/
def give (s : Scan) (flag : Flag) (value : Option String) : Except UsageError Scan :=
  if flag.kind.takesValue && value.isNone then .error .missingValue
  else if !flag.kind.isRepeatable && s.has flag.name then .error .repeatedFlag
  else if flag.kind.isPath && value == some "" then .error .missingValue
  else .ok { s with given := s.given ++ [(flag.name, value.getD "")] }

/-- Checks the flag that is still to be checked. -/
def settle (s : Scan) : Except UsageError Scan :=
  match s.pending with
  | none => .ok s
  | some (flag, value) => { s with pending := none }.give flag value

/-- The name and the value of an argument of the form `name=value`. -/
def splitValue (cs : List Char) : String × Option String :=
  match cs.dropWhile (· ≠ '=') with
  | [] => (String.ofList cs, none)
  | _ :: value => (String.ofList (cs.takeWhile (· ≠ '=')), some (String.ofList value))

/-- Reads a flag, given what stands behind its dashes. -/
def longFlag (shape : CommandShape) (s : Scan) (cs : List Char) : Except UsageError Scan :=
  let (name, value) := splitValue cs
  if name = "help" ∨ name = "version" ∧ shape.hasVersion then
    if value.isSome then .error .surplusValue
    else do
      let _ ← s.settle
      .error (if name = "help" then .help else .version)
  else match shape.flags.find? (·.name = name) with
    | none => .error .unknownArgument
    | some flag =>
      match flag.kind.takesValue, value with
      | false, some _ => .error .surplusValue
      | true, none => do .ok { ← s.settle with pending := some (flag, none) }
      | _, _ => do (← s.settle).give flag value

/-- Reads short flags, of which there is one for help and one for the version. -/
def shortFlags (shape : CommandShape) (s : Scan) (cs : List Char) : Except UsageError Scan :=
  match cs with
  | 'h' :: _ => do
    let _ ← s.settle
    .error .help
  | 'V' :: _ => do
    if !shape.hasVersion then .error .unknownArgument
    let _ ← s.settle
    .error .version
  | _ => .error .unknownArgument

/-- Reads an operand. -/
def operand (shape : CommandShape) (s : Scan) (argument : String) : Except UsageError Scan :=
  if shape.takesOperands then do
    let s ← s.settle
    .ok { s with operands := s.operands ++ [argument] }
  else if shape.commands.isEmpty ∨ s.operandsOnly ∧ argument ∈ shape.commands then
    .error .unknownArgument
  else .error .unknownCommand

/-- Reads an argument that is no command. -/
def argument (shape : CommandShape) (s : Scan) (argument : String) : Except UsageError Scan :=
  if s.operandsOnly then s.operand shape argument
  else match argument.toList with
    | ['-', '-'] => .ok { s with operandsOnly := true }
    | '-' :: '-' :: cs => s.longFlag shape cs
    | '-' :: c :: cs => s.shortFlags shape (c :: cs)
    | _ =>
      match s.pending with
      | some (flag, none) => .ok { s with pending := some (flag, some argument) }
      | _ => s.operand shape argument

/-- Reads arguments up to a command, which is given with the arguments behind it. -/
def run (shape : CommandShape) (s : Scan) :
    List String → Except UsageError (Scan × Option (String × List String))
  | [] => .ok (s, none)
  | a :: as =>
    if !s.operandsOnly && !s.isAwaiting && shape.commands.contains a then .ok (s, some (a, as))
    else do run shape (← s.argument shape a) as

end Scan

end JavaConstants
