import LogQuery.CommandLine.Arguments
import LogQuery.File
import LogQuery.Log.Reader
import LogQuery.Profile.Reader
import LogQuery.Search.Report
import LogQuery.Table

/-!
# CommandLine.Run — what the program does

A run reads files through a function and changes nothing: its outcome says what to print, what to
write to a file, and what went wrong.

* `run` gives the outcome for arguments; `Outcome.onFolder` carries it out on a folder.
-/

namespace LogQuery.CommandLine

open LogQuery.Filter

/-- How files are read. -/
abbrev Files := String → Except FileError ByteArray

/-- What went wrong: the wording of a problem, then that of its cause, and so on. -/
abbrev Problems := List String

/-- The outcome of a run. -/
structure Outcome where
  /-- What is printed. -/
  text : String := ""
  /-- The file that the text is also written to. -/
  saveTo : Option String := none
  /-- What went wrong, if the text could be written. -/
  problems : Problems := []

/-! ## Loading -/

/-- The profile with its library and its color rules. -/
structure Setup where
  profile : Profile
  library : Library
  colors : List ColorRule

/-- Add a wording in front of a problem. -/
def during {α : Type} (words : String) : Except Problems α → Except Problems α :=
  Except.mapError (words :: ·)

/-- Load the profile, then its saved filters, then its color rules. -/
def load (files : Files) (config : Option String) : Except Problems Setup := do
  let loaded : Except ProfileError Profile :=
    match config with
    | some file => Profile.ofFile file (files file)
    | none => .ok {}
  let profile ← during "Failed to load config" (loaded.mapError ProfileError.messages)
  let library ← during "Failed to load saved filters from config"
    (profile.library.mapError ProfileError.messages)
  let colors ← during "Failed to load color rules from config"
    ((profile.readColorRules library).mapError ProfileError.messages)
  pure { profile, library, colors }

/-- Read the filter of a command. -/
def readFilter (s : Setup) (filter : String) : Except Problems Node :=
  during ("Invalid filter expression: " ++ filter)
    (((s.profile.reader s.library).read filter).mapError fun e => [e.message])

/-! ## Search -/

/-- Read a log. -/
def readLog (files : Files) (file : String) : Except Problems (List Log.Entry) :=
  during ("Failed to parse log file '" ++ file ++ "'")
    (((files file).bind Log.entriesOfBytes).mapError fun e => [Log.unreadable e, e.text])

/-- Search a log; color rules do not matter if entries are only counted. -/
def searchFile (files : Files) (s : Setup) (node : Node) (context : Nat) (countOnly : Bool)
    (file : String) : Except Problems Search.Report := do
  let entries ← readLog files file
  let e := s.profile.evaluator s.library
  let findings := Search.Findings.of e node entries
  pure {
    file
    entries
    findings := if countOnly then findings else findings.withColors e s.colors entries
    context
    rules := s.colors }

/-- The text of the reports on all logs. -/
def searchText (t : Terminal) (format : OutputFormat) (countOnly : Bool)
    (reports : List Search.Report) : String :=
  match format, countOnly with
  | .text, true => String.join (reports.map (·.countText (decide (1 < reports.length))))
  | .text, false => String.join (reports.map (·.text t))
  | .json, true => Search.Report.jsonText (reports.map (·.countJson)) ++ "\n"
  | .json, false => Search.Report.jsonText (reports.map (·.json)) ++ "\n"

/-! ## Check -/

/-- Texts with commas between them, or a dash. -/
def listed (texts : List String) : String :=
  let joined := String.intercalate ", " texts
  if joined = "" then "-" else joined

/-- A title in bold. -/
def bold (t : Terminal) (s : String) : String := ({ weight := .bold } : Style).apply t s

/-- The result of a check as text. -/
def checkText (t : Terminal) (node : Node) (d : Dependencies) : String :=
  let ok : Style := { foreground := some (.named false .green) }
  let wrong : Style := { weight := .bold, foreground := some (.named false .red) }
  bold t "Canonical:" ++ " " ++ node.canonical ++ "\n" ++
    bold t "Fields:" ++ " " ++ listed d.fields ++ "\n" ++
    bold t "Aliases:" ++ " " ++ listed d.aliases ++ "\n" ++
    if d.errors.isEmpty then bold t "Status:" ++ " " ++ ok.apply t "ok" ++ "\n"
    else
      wrong.apply t "Errors:" ++ "\n" ++
        String.join (d.errors.map fun e => "  - " ++ e.message ++ "\n")

/-- The result of a check as a value. -/
def checkJson (node : Node) (d : Dependencies) : Json :=
  .object [("check", .object [
    ("aliases", .texts d.aliases),
    ("canonical", .text node.canonical),
    ("errors", .texts (d.errors.map EvalError.message)),
    ("fields", .texts d.fields)])]

/-! ## Library -/

/-- The table of the saved filters. -/
def filterTable (library : Library) : Table where
  titles := ["Name", "Filter", "Depends on"]
  rows := library.toList.map fun rule =>
    [rule.name, rule.filterText, listed (dependencies rule.root library.rules false).aliases]

/-- The table of the color rules. -/
def colorTable (colors : List ColorRule) : Table where
  titles := ["Color rule", "Filter", "Foreground", "Background", "Priority", "Enabled"]
  rows := colors.map fun c =>
    [c.rule.name, c.rule.filterText, Color.label? c.foreground, Color.label? c.background,
      toString c.priority, if c.enabled then "yes" else "no"]

/-- The saved filters and the color rules as text. -/
def libraryText (s : Setup) : String :=
  if s.library.size = 0 && s.colors.isEmpty then
    "No saved filters in profile '" ++ s.profile.name ++ "'.\n"
  else
    "Saved filters (" ++ s.profile.name ++ ", " ++ toString s.library.size ++ " total)\n" ++
      (filterTable s.library).text ++ "\n" ++
      if s.colors.isEmpty then ""
      else
        "Color rules (" ++ toString s.colors.length ++ " total)\n" ++ (colorTable s.colors).text ++
          "\n"

/-- A saved filter as a value. -/
def ruleJson (rule : Rule) : Json :=
  .object [("filter", .text rule.filterText), ("name", .text rule.name)]

/-- A color rule as a value. -/
def colorJson (c : ColorRule) : Json :=
  .object [
    ("background", .text? (c.background.map Color.label)),
    ("enabled", .boolean c.enabled),
    ("filter", .text c.rule.filterText),
    ("foreground", .text? (c.foreground.map Color.label)),
    ("name", .text c.rule.name),
    ("priority", .integer c.priority)]

/-- The saved filters and the color rules as a value. -/
def libraryJson (s : Setup) : Json :=
  .object [("library", .object [
    ("color_rules", .array (s.colors.map colorJson)),
    ("filters", .array (s.library.toList.map ruleJson)),
    ("profile", .text s.profile.name)])]

/-! ## Runs -/

/-- What the terminal shows, given when the output is to have colors. -/
def ColorMode.terminal (mode : ColorMode) (t : Terminal) : Terminal :=
  match mode with
  | .automatic => t
  | .always => { t with styled := true }
  | .never => { t with styled := false }

/-- The text of a run, and what went wrong although there is a text. -/
def produce (files : Files) (t : Terminal) (a : Arguments) :
    Except Problems (String × Problems) := do
  let s ← load files a.config
  match a.command with
  | .search names filter context countOnly =>
    let node ← readFilter s filter
    let reports ← names.mapM (searchFile files s node context countOnly)
    pure (searchText t a.format countOnly reports, [])
  | .check filter =>
    let node ← readFilter s filter
    let d := dependencies node s.library.rules true
    let text := match a.format with
      | .text => checkText t node d
      | .json => (checkJson node d).pretty ++ "\n"
    let problems :=
      if d.errors.isEmpty then []
      else ["Filter references " ++ toString d.errors.length ++
        " unresolved or cyclic alias(es)"]
    pure (text, problems)
  | .library =>
    let text := match a.format with
      | .text => libraryText s
      | .json => (libraryJson s).pretty ++ "\n"
    pure (text, [])

/-- The outcome of a run on a terminal. -/
def run (files : Files) (t : Terminal) (a : Arguments) : Outcome :=
  match produce files (a.color.terminal t) a with
  | .ok (text, problems) => { text, saveTo := a.output, problems }
  | .error problems => { problems }

/-- The problems of a file that the output cannot be written to. -/
def writeProblems (file : String) (cause : String) : Problems :=
  ["Failed to write output file '" ++ file ++ "'", cause]

/-- Write the text to its file in a folder. A text that cannot be written is the only problem. -/
def Outcome.onFolder (o : Outcome) (folder : Folder) : Folder × Problems :=
  match o.saveTo with
  | none => (folder, o.problems)
  | some file =>
    match folder.write file o.text with
    | .ok changed => (changed, o.problems)
    | .error e => (folder, writeProblems file e.text)

end LogQuery.CommandLine
