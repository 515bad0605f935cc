import JavaConstants.Generate.Workspace
import JavaConstants.Json.Printer
import JavaConstants.Text.Table

/-!
# Reports

The outcome of a run, and of repairing names, as text for a reader and as JSON.
-/

namespace JavaConstants

/-- The character that starts a terminal's control sequence. -/
def escapeMark : String := "\x1b["

/-- A heading, bold and underlined. -/
def heading (title : String) : String :=
  escapeMark ++ "4m" ++ escapeMark ++ "1m" ++ title ++ escapeMark ++ "0m" ++ escapeMark ++ "0m"

namespace GenerationReport

/-- The summary of a run. -/
def summary (title : String) (r : GenerationReport) : String :=
  heading title ++ "\n\n" ++
    "  Class: " ++ r.className ++ "\n" ++
    "  Output: " ++ r.outputFile.text ++ "\n" ++
    "  Fields: " ++ toString r.fieldCount ++ "\n" ++
    "  Classes: " ++ toString r.classCount ++ "\n" ++
    "  Duration: " ++ toString r.duration ++ " ms\n"

/-- The table of the names left out; nothing where there are none. -/
def skippedTable (skipped : List Skipped) : String :=
  if skipped.isEmpty then ""
  else "\n" ++ heading "Skipped names" ++ "\n\n" ++
    renderTable ["Scope", "Name", "Reason"]
      (skipped.map fun s ↦ [s.scopeText, s.name, s.reason.text]) ++ "\n"

/-- The report for a reader. -/
def text (title : String) (r : GenerationReport) : String :=
  r.summary title ++ skippedTable r.skipped

/-- The report as a document. -/
def toJson (r : GenerationReport) : Json.Value :=
  .object [
    ("class_name", .string r.className),
    ("output_file", .string r.outputFile.text),
    ("field_count", .number r.fieldCount),
    ("class_count", .number r.classCount),
    ("skipped", .array (r.skipped.map fun s ↦
      .object [("scope", .string s.scopeText), ("name", .string s.name),
        ("reason", .string s.reason.key)])),
    ("duration_ms", .number r.duration)]

end GenerationReport

/-! ## Repaired names -/

/-- Names with their identifiers, one on a line. -/
def sanitizedText (names : List String) : String :=
  "\n".intercalate (names.map fun name ↦ name ++ " -> " ++ (identifier? name).getD "<none>")

/-- Names with their identifiers as a document. -/
def sanitizedJson (names : List String) : Json.Value :=
  .array (names.map fun name ↦
    .object [("input", .string name), ("output", (identifier? name).elim .null .string)])

end JavaConstants
