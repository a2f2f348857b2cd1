import LogQuery.CommandLine.Arguments
import LogQuery.Text.Substring

/-!
# CommandLine.Usage — what the program tells its user

* `usage` lists the commands and the options.
* `Refusal.text` says why the arguments do not lead to a run.
* `problemText` writes a problem and its causes.
-/

namespace LogQuery.CommandLine

/-- The commands and the options of the program. -/
def usage : String := String.intercalate "\n" [
  "Usage: logquery [OPTIONS] <COMMAND>",
  "",
  "Commands:",
  "  search --filter <FILTER> <FILES>...  Print the entries of log files that match a filter",
  "  check <FILTER>                       Show the canonical form of a filter and what it uses",
  "  library                              List the saved filters and the color rules",
  "",
  "Options:",
  "  -c, --config <FILE>     The profile (TOML), also taken from LOG_FILTER_CONFIG",
  "  -F, --format <FORMAT>   text (default) or json",
  "  -o, --output <FILE>     Also write the output to this file",
  "      --color <WHEN>      auto (default), always or never",
  "  -v, --verbose           Tell more about the work; may be given several times",
  "  -q, --quiet             Tell errors only",
  "  -h, --help              Print this help",
  "  -V, --version           Print the version",
  "",
  "Options of search:",
  "  -f, --filter <FILTER>   The filter",
  "  -C, --context <NUMBER>  Entries to show around each match",
  "      --count             Print the number of matching entries only",
  ""]

namespace Refusal

/-- The wording of a refusal. -/
def message : Refusal → String
  | .unknownArgument => "there is an argument that is not known here"
  | .invalidValue => "a value is missing or not allowed"
  | .malformedValue => "a value is not a number"
  | .unexpectedValue => "an option that takes no value has one"
  | .conflict => "an option is given twice, or two options exclude each other"
  | .unknownCommand => "there is no such command"
  | .missingCommand => "there is no command"
  | .missingArgument => "a required argument is missing"
  | .nothingGiven | .helpWanted | .versionWanted => ""

/-- What the user is told after a refusal. -/
def text (r : Refusal) : String :=
  match r with
  | .nothingGiven | .helpWanted => usage
  | .versionWanted => "logquery\n"
  | r => "error: " ++ r.message ++ "\n\n" ++ usage

/-- Whether the user asked for what is told. -/
def isWanted (r : Refusal) : Bool := r.exitCode == 0

end Refusal

/-- A cause of a problem; its further lines stand below its first one. -/
def causeLine (mark blank cause : String) : String :=
  mark ++ Text.replaceAll "\n" ("\n" ++ blank) cause ++ "\n"

/-- The causes of a problem, counted from `index` on. -/
def numberedCauses (index : Nat) : List String → String
  | [] => ""
  | cause :: rest =>
    causeLine ("    " ++ toString index ++ ": ") "       " cause ++ numberedCauses (index + 1) rest

/-- A problem, and below it the causes; several causes are counted. -/
def problemText : List String → String
  | [] => ""
  | [problem] => "Error: " ++ problem ++ "\n"
  | [problem, cause] => "Error: " ++ problem ++ "\n\nCaused by:\n" ++ causeLine "    " "    " cause
  | problem :: causes => "Error: " ++ problem ++ "\n\nCaused by:\n" ++ numberedCauses 0 causes

end LogQuery.CommandLine
