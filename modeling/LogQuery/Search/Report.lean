import LogQuery.Search

/-!
# Search.Report — the results of searches as text and as structured values

* `Report.text` shows the rows of a search and what was recorded.
* `Report.json` holds the same as a value; `Report.countText` and `Report.countJson` only count.
-/

namespace LogQuery.Search

open LogQuery.Filter

/-- One search: the file, its entries, the findings, and how they are shown. -/
structure Report where
  file : String
  entries : List Log.Entry
  findings : Findings
  /-- How many entries are shown around each one found. -/
  context : Nat
  rules : List ColorRule

namespace Report

/-- A number in a field of at least `width` characters, at the right. -/
def alignRight (width n : Nat) : String :=
  let digits := toString n
  String.ofList (List.replicate (width - digits.length) ' ') ++ digits

/-- The plural of `entry` unless there is one. -/
def entryWord (n : Nat) : String := if n = 1 then "entry" else "entries"

/-- The rows of the report with their entries. -/
def shown (r : Report) : List (Row × Log.Entry) :=
  (rows r.entries.length r.context r.findings.found).filterMap fun row =>
    r.entries[row.index]?.map fun entry => (row, entry)

/-- The color rule of an entry. -/
def ruleOf (r : Report) (index : Nat) : Option ColorRule :=
  (r.findings.colorOf index).bind fun rule => r.rules[rule]?

/-! ## Text -/

/-- The component of an entry with its id. -/
def componentLabel (e : Log.Entry) : String :=
  if e.componentId = "" then e.component else e.component ++ " (" ++ e.componentId ++ ")"

/-- An entry on one line. Line ends in the message are written as `\n`. -/
def entryText (e : Log.Entry) : String :=
  alignRight 6 e.line ++ ": " ++ e.timestamp.millis ++ " [" ++ e.level ++ "] " ++
    componentLabel e ++ " | " ++ Text.replaceAll "\n" "\\n" e.message

/-- The line of an entry, after a mark if the entry was found. -/
def entryLine (found : Bool) (e : Log.Entry) : String := (if found then ">" else " ") ++ entryText e

/-- The style of a row. -/
def rowStyle (r : Report) (row : Row) : Style :=
  if row.found then
    match r.ruleOf row.index with
    | some rule => rule.paint { weight := .bold }
    | none => { weight := .bold }
  else { weight := .dimmed }

/-- A row, after a line of dashes if entries are left out before it. -/
def rowText (t : Terminal) (r : Report) (row : Row) (e : Log.Entry) : String :=
  (if row.afterGap then "--\n" else "") ++ (r.rowStyle row).apply t (entryLine row.found e) ++ "\n"

/-- The messages that were recorded, with how often and where first. -/
def diagnosticsText (t : Terminal) (f : Findings) : String :=
  if f.diagnostics.isEmpty then ""
  else
    let count := f.diagnostics.length
    let title : Style := { weight := .bold, foreground := some (.named false .yellow) }
    "\n" ++ title.apply t "Diagnostics:" ++ " " ++ toString count ++ " " ++ entryWord count ++
      " reported evaluation errors\n" ++
      String.join (f.grouped.entries.map fun (message, lines) =>
        "  " ++ alignRight 4 lines.length ++ "x " ++ message ++ " (first at line " ++
          toString (lines.head?.getD 0) ++ ")\n")

/-- The rows under a heading, or that there are none. -/
def rowsText (t : Terminal) (r : Report) : String :=
  if r.findings.found.isEmpty then "No matching log entries found.\n"
  else
    (if r.context = 0 then "" else "Context: " ++ toString r.context ++ " entries\n") ++ "\n" ++
      String.join (r.shown.map fun (row, entry) => r.rowText t row entry)

/-- The report as text. -/
def text (t : Terminal) (r : Report) : String :=
  let count := r.findings.found.length
  "SEARCH " ++ r.file ++ " matched " ++ toString count ++ " " ++ entryWord count ++ "\n" ++
    r.rowsText t ++ diagnosticsText t r.findings

/-- The number of entries found, after the name of the file if asked. -/
def countText (withFile : Bool) (r : Report) : String :=
  (if withFile then r.file ++ ": " else "") ++ toString r.findings.found.length ++ "\n"

/-! ## Values -/

/-- A row as a value. -/
def rowJson (r : Report) (row : Row) (e : Log.Entry) : Json :=
  .object [
    ("color_rule", .text? ((r.ruleOf row.index).map fun rule => rule.rule.name)),
    ("component", .text e.component),
    ("component_id", .text e.componentId),
    ("is_match", .boolean row.found),
    ("level", .text e.level),
    ("message", .text e.message),
    ("payload", e.payload.getD .null),
    ("raw_logline", .text e.raw),
    ("source_line_number", .nat e.line),
    ("timestamp", .text e.timestamp.millis)]

/-- What was recorded on an entry, as a value. -/
def diagnosticJson (d : Diagnostic) : Json :=
  .object [
    ("errors", .texts (d.errors.map EvalError.message)),
    ("index", .nat d.index),
    ("source_line_number", .nat d.line)]

/-- The report as a value. -/
def json (r : Report) : Json :=
  .object [
    ("context", .nat r.context),
    ("diagnostics", .array (r.findings.diagnostics.map diagnosticJson)),
    ("entries", .array (r.shown.map fun (row, entry) => r.rowJson row entry)),
    ("entries_total", .nat r.entries.length),
    ("file", .text r.file),
    ("matches", .nat r.findings.found.length)]

/-- The counts as a value. -/
def countJson (r : Report) : Json :=
  .object [
    ("diagnostics", .nat r.findings.diagnostics.length),
    ("file", .text r.file),
    ("matches", .nat r.findings.found.length)]

/-- The text of several reports that are given as values. -/
def jsonText (reports : List Json) : String := (Json.object [("search", .array reports)]).pretty

end Report

end LogQuery.Search
