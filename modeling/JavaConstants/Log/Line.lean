import JavaConstants.Generate.DateTime
import JavaConstants.Json.Printer
import JavaConstants.Log.Event
import JavaConstants.Text.Quoted

/-!
# Log lines

An event as a line of text, with or without colours, and as a document on one line.
-/

namespace JavaConstants

/-- The format of log lines. -/
inductive LogFormat where
  | text
  | json
  deriving DecidableEq, Repr

/-- A text in a style of the terminal. -/
def styled (code text : String) : String := "\x1b[" ++ code ++ "m" ++ text ++ "\x1b[0m"

/-- The colour of a level. -/
def LogLevel.colour : LogLevel → String
  | trace => "35"
  | debug => "34"
  | info => "32"
  | warn => "33"
  | error => "31"

/-- The name of a level, five columns wide. -/
def LogLevel.column (level : LogLevel) : String :=
  String.ofList (List.replicate (5 - level.name.length) ' ') ++ level.name

/-- A value as a line shows it. -/
def LogValue.text : LogValue → String
  | quotedText s => quoted s
  | plainText s => s
  | number n => String.ofList (digitChars n)

/-- A value as a document holds it. -/
def LogValue.toJson : LogValue → Json.Value
  | quotedText s => .string s
  | plainText s => .string s
  | number n => .number n

namespace Event

/-- An event as a line with colours. -/
def colouredLine (e : Event) (time : DateTime) : String :=
  styled "2" time.logText ++ " " ++ styled e.level.colour e.level.column ++ " " ++
    styled "2" e.target ++ styled "2" ":" ++ " " ++ e.message ++
    String.join (e.values.map fun (name, v) ↦
      " " ++ styled "3" name ++ styled "2" "=" ++ v.text) ++ "\n"

/-- An event as a line without colours. -/
def plainLine (e : Event) (time : DateTime) : String :=
  time.logText ++ " " ++ e.level.column ++ " " ++ e.target ++ ": " ++ e.message ++
    String.join (e.values.map fun (name, v) ↦ " " ++ name ++ "=" ++ v.text) ++ "\n"

/-- An event as a document on one line. -/
def jsonLine (e : Event) (time : DateTime) : String :=
  Json.compact (.object [
    ("timestamp", .string time.logText),
    ("level", .string e.level.name),
    ("fields", .object (("message", .string e.message) ::
      e.values.map fun (name, v) ↦ (name, v.toJson))),
    ("target", .string e.target)]) ++ "\n"

/-- The line of an event. -/
def line (e : Event) (format : LogFormat) (coloured : Bool) (time : DateTime) : String :=
  match format with
  | .json => e.jsonLine time
  | .text => if coloured then e.colouredLine time else e.plainLine time

end Event

end JavaConstants
