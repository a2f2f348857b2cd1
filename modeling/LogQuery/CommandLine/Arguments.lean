import LogQuery.Number.Text

/-!
# CommandLine.Arguments — the arguments of the program

The arguments name a command; options stand before or after the name, and some belong to one command
only. An option takes its value from the same argument or from the next one, and a value is checked
when the argument after it is read, or at the end.

* `Arguments.read` reads all arguments, or says why they cannot be used.
* `Reading.step` reads one argument of a level: before the name of the command, or after it.
-/

namespace LogQuery.CommandLine

/-! ## What the arguments ask for -/

/-- What the program is to do. -/
inductive Command where
  | search (files : List String) (filter : String) (context : Nat) (countOnly : Bool)
  | check (filter : String)
  | library
  deriving DecidableEq, Repr

/-- The form of the output. -/
inductive OutputFormat where
  | text
  | json
  deriving DecidableEq, Repr

/-- When the output has colors. -/
inductive ColorMode where
  | automatic
  | always
  | never
  deriving DecidableEq, Repr

/-- How much is told about the work of the program. -/
inductive LogLevel where
  | error
  | warn
  | info
  | debug
  | trace
  deriving DecidableEq, Repr

/-- All that the arguments ask for. -/
structure Arguments where
  command : Command
  /-- The file of the profile. -/
  config : Option String := none
  format : OutputFormat := .text
  /-- A file that the output is also written to. -/
  output : Option String := none
  /-- How often more details were asked for. -/
  verbosity : Nat := 0
  quiet : Bool := false
  color : ColorMode := .automatic
  deriving DecidableEq, Repr

/-- How much is told about the work of the program. -/
def Arguments.logLevel (a : Arguments) : LogLevel :=
  if a.quiet then .error
  else
    match a.verbosity with
    | 0 => .warn
    | 1 => .info
    | 2 => .debug
    | _ => .trace

/-- Why the arguments do not lead to a run. -/
inductive Refusal where
  | unknownArgument
  /-- A value is missing, or it is none of those allowed. -/
  | invalidValue
  /-- A value is no number. -/
  | malformedValue
  | unexpectedValue
  | conflict
  | unknownCommand
  | missingCommand
  | missingArgument
  /-- There are no arguments at all, so help is shown. -/
  | nothingGiven
  | helpWanted
  | versionWanted
  deriving DecidableEq, Repr

/-- The exit code of the program after a refusal. -/
def Refusal.exitCode : Refusal → Nat
  | .helpWanted | .versionWanted => 0
  | _ => 2

/-! ## Options -/

/-- Where an argument stands: before the name of the command, or after it. -/
inductive Level where
  | top
  | search
  | check
  | library
  deriving DecidableEq, Repr

/-- The options. -/
inductive Flag where
  | config
  | format
  | output
  | color
  | filter
  | context
  | verbose
  | quiet
  | count
  | help
  | version
  deriving DecidableEq, Repr

namespace Flag

/-- All options. -/
def all : List Flag :=
  [.config, .format, .output, .color, .filter, .context, .verbose, .quiet, .count, .help, .version]

/-- The name of an option after two dashes. -/
def longName : Flag → String
  | .config => "config"
  | .format => "format"
  | .output => "output"
  | .color => "color"
  | .filter => "filter"
  | .context => "context"
  | .verbose => "verbose"
  | .quiet => "quiet"
  | .count => "count"
  | .help => "help"
  | .version => "version"

/-- The letter of an option after one dash. -/
def letter? : Flag → Option Char
  | .config => some 'c'
  | .format => some 'F'
  | .output => some 'o'
  | .filter => some 'f'
  | .context => some 'C'
  | .verbose => some 'v'
  | .quiet => some 'q'
  | .help => some 'h'
  | .version => some 'V'
  | .color | .count => none

/-- Whether the option has a value. -/
def takesValue : Flag → Bool
  | .config | .format | .output | .color | .filter | .context => true
  | _ => false

/-- Whether the option may stand at a level. -/
def allowedAt (level : Level) : Flag → Bool
  | .filter | .context | .count => level = .search
  | .version => level = .top
  | _ => true

/-- The option with a name at a level. -/
def ofName? (level : Level) (name : String) : Option Flag :=
  all.find? fun flag => flag.allowedAt level && flag.longName == name

/-- The option with a letter at a level. -/
def ofLetter? (level : Level) (c : Char) : Option Flag :=
  all.find? fun flag => flag.allowedAt level && flag.letter? == some c

end Flag

/-! ## One level -/

/-- Values that were read but not checked yet. -/
inductive Pending where
  | nothing
  /-- An option that needs a value. -/
  | wanting (flag : Flag)
  | value (flag : Flag) (text : String)
  | operands (texts : List String)
  deriving DecidableEq, Repr

/-- What the arguments of a level have given. -/
structure Reading where
  config : Option String := none
  format : Option OutputFormat := none
  output : Option String := none
  color : Option ColorMode := none
  filter : Option String := none
  context : Option Nat := none
  verbosity : Nat := 0
  quiet : Bool := false
  count : Bool := false
  /-- The arguments that belong to no option. -/
  operands : List String := []
  pending : Pending := .nothing
  /-- Whether all further arguments are operands. -/
  operandsOnly : Bool := false
  deriving DecidableEq, Repr

/-- The result of a step, or a refusal. -/
abbrev Attempt := Except Refusal

/-- A value for the first time, read with `read`; a second one is a conflict. -/
def once {α : Type} (old : Option α) (value : Attempt α) : Attempt (Option α) :=
  if old.isSome then .error .conflict else value.map some

/-- The name of a file is not empty. -/
def fileName (s : String) : Attempt String := if s = "" then .error .invalidValue else .ok s

/-- The form of the output with a name. -/
def formatNamed (s : String) : Attempt OutputFormat :=
  match s with
  | "text" => .ok .text
  | "json" => .ok .json
  | _ => .error .invalidValue

/-- The color mode with a name. -/
def colorNamed (s : String) : Attempt ColorMode :=
  match s with
  | "auto" => .ok .automatic
  | "always" => .ok .always
  | "never" => .ok .never
  | _ => .error .invalidValue

/-- A number of at most 64 bits. -/
def numberGiven (s : String) : Attempt Nat :=
  match Number.naturalOfText? s with
  | some n => if n < 2 ^ 64 then .ok n else .error .malformedValue
  | none => .error .malformedValue

namespace Reading

/-- Give an option its value. -/
def assign (r : Reading) (flag : Flag) (s : String) : Attempt Reading :=
  match flag with
  | .config => (once r.config (fileName s)).map fun v => { r with config := v }
  | .format => (once r.format (formatNamed s)).map fun v => { r with format := v }
  | .output => (once r.output (fileName s)).map fun v => { r with output := v }
  | .color => (once r.color (colorNamed s)).map fun v => { r with color := v }
  | .filter => (once r.filter (.ok s)).map fun v => { r with filter := v }
  | .context => (once r.context (numberGiven s)).map fun v => { r with context := v }
  | _ => .ok r

/-- Check operands and keep them. Those of a search are the names of files. -/
def keep (level : Level) (r : Reading) (texts : List String) : Attempt Reading := do
  if level = .search then
    let _ ← texts.mapM fileName
  pure { r with operands := r.operands ++ texts }

/-- Check what is pending. -/
def settle (level : Level) (r : Reading) : Attempt Reading :=
  let rest := { r with pending := .nothing }
  match r.pending with
  | .nothing => .ok rest
  | .wanting _ => .error .invalidValue
  | .value flag s => rest.assign flag s
  | .operands texts => rest.keep level texts

/-- Set an option without a value. -/
def switch (level : Level) (r : Reading) (flag : Flag) : Attempt Reading := do
  let r ← r.settle level
  match flag with
  | .verbose => pure { r with verbosity := min (r.verbosity + 1) 255 }
  | .quiet => if r.quiet then throw .conflict else pure { r with quiet := true }
  | .count => if r.count then throw .conflict else pure { r with count := true }
  | .help => throw .helpWanted
  | .version => throw .versionWanted
  | _ => pure r

/-- Give an option a value from its own argument, or wait for the next one. -/
def valued (level : Level) (r : Reading) (flag : Flag) (s : Option String) : Attempt Reading := do
  let r ← r.settle level
  match s with
  | some s => r.assign flag s
  | none => pure { r with pending := .wanting flag }

/-- Read an option by its name, with the value after an equals sign if there is one. -/
def named (level : Level) (r : Reading) (name : String) (s : Option String) : Attempt Reading :=
  match Flag.ofName? level name with
  | none => .error .unknownArgument
  | some flag =>
    if flag.takesValue then r.valued level flag s
    else if s.isSome then .error .unexpectedValue
    else r.switch level flag

/-- Read options by their letters. What follows the letter of an option with a value is the value;
an equals sign before it is left out. -/
def letters (level : Level) (r : Reading) : List Char → Attempt Reading
  | [] => .ok r
  | c :: cs =>
    match Flag.ofLetter? level c with
    | none => .error .unknownArgument
    | some flag =>
      if flag.takesValue then
        match cs with
        | [] => r.valued level flag none
        | '=' :: cs => r.valued level flag (some (String.ofList cs))
        | cs => r.valued level flag (some (String.ofList cs))
      else do
        let r ← r.switch level flag
        letters level r cs

/-- The names of the commands. -/
def commandNames : List (String × Level) :=
  [("search", .search), ("check", .check), ("library", .library)]

/-- Whether an argument has the name of a command, or is the one that asks for help. -/
def isCommandName (arg : String) : Bool := arg == "help" || (commandNames.lookup arg).isSome

/-- The operands so far, checked or not. -/
def operandCount (r : Reading) : Nat :=
  r.operands.length +
    match r.pending with
    | .operands texts => texts.length
    | _ => 0

/-- Read an operand. -/
def operand (level : Level) (r : Reading) (arg : String) : Attempt Reading :=
  let further : Attempt Reading :=
    match r.pending with
    | .operands texts => .ok { r with pending := .operands (texts ++ [arg]) }
    | _ => (r.settle level).map fun r => { r with pending := .operands [arg] }
  match level with
  | .top =>
    if r.operandsOnly && isCommandName arg then .error .unknownArgument else .error .unknownCommand
  | .search => further
  | .check => if r.operandCount = 0 then further else .error .unknownArgument
  | .library => .error .unknownArgument

/-- The name and the value of an argument of the form `name=value`, or the whole as the name. -/
def splitValue : List Char → List Char × Option (List Char)
  | [] => ([], none)
  | '=' :: cs => ([], some cs)
  | c :: cs =>
    let (name, s) := splitValue cs
    (c :: name, s)

/-- Read an argument that is neither an option nor marks the end of the options. -/
def plain (level : Level) (r : Reading) (arg : String) : Attempt Reading :=
  match r.pending with
  | .wanting flag => .ok { r with pending := .value flag arg }
  | _ => r.operand level arg

/-- Read an argument. -/
def step (level : Level) (r : Reading) (arg : String) : Attempt Reading :=
  if r.operandsOnly then r.operand level arg
  else
    match arg.toList with
    | ['-', '-'] => .ok { r with operandsOnly := true }
    | '-' :: '-' :: cs =>
      let (name, s) := splitValue cs
      r.named level (String.ofList name) (s.map String.ofList)
    | '-' :: c :: cs => r.letters level (c :: cs)
    | _ => r.plain level arg

/-- Check what is pending at the end of a level. The profile may be named by the environment. -/
def finish (level : Level) (environment : Option String) (r : Reading) : Attempt Reading := do
  let r ← r.settle level
  if r.config.isNone then
    if environment = some "" then throw .invalidValue
  pure r

/-- Two options of a level that exclude each other are a conflict. -/
def checkConflicts (r : Reading) : Attempt Unit :=
  if r.quiet && 0 < r.verbosity then .error .conflict else .ok ()

/-- Whether anything at all is given before the name of a command. -/
def isBlank (r : Reading) : Bool := r == { operandsOnly := r.operandsOnly }

/-- The command that a level asks for; what it needs has to be there. -/
def command (level : Level) (r : Reading) : Attempt Command :=
  match level, r.operands, r.filter with
  | .search, file :: files, some filter =>
    .ok (.search (file :: files) filter (r.context.getD 0) r.count)
  | .check, filter :: _, _ => .ok (.check filter)
  | .library, _, _ => .ok .library
  | _, _, _ => .error .missingArgument

end Reading

/-! ## All arguments -/

/-- Whether the arguments after `help` name a command, or nothing. -/
def helpOn (args : List String) : Refusal :=
  match args with
  | [] => .helpWanted
  | [arg] => if Reading.isCommandName arg then .helpWanted else .unknownCommand
  | _ => .unknownCommand

namespace Arguments

/-- Put the options of both levels together. Those after the name of the command count first, and
the environment last. -/
def combine (environment : Option String) (top inner : Reading) (command : Command) :
    Arguments where
  command
  config := inner.config <|> top.config <|> environment
  format := (inner.format <|> top.format).getD .text
  output := inner.output <|> top.output
  verbosity := if 0 < inner.verbosity then inner.verbosity else top.verbosity
  quiet := inner.quiet || top.quiet
  color := (inner.color <|> top.color).getD .automatic

/-- Read the arguments after the name of a command. -/
def readCommand (environment : Option String) (level : Level) (args : List String) :
    Attempt (Reading × Command) := do
  let r ← args.foldlM (Reading.step level) {}
  let r ← r.finish level environment
  r.checkConflicts
  let command ← r.command level
  pure (r, command)

/-- Read the arguments that are left, given what was read before the name of a command. -/
def readFrom (environment : Option String) (top : Reading) : List String → Attempt Arguments
  | [] => do
    let top ← top.finish .top environment
    if top.isBlank && environment.isNone then throw .nothingGiven
    throw .missingCommand
  | arg :: args => do
    let waiting := match top.pending with
      | .wanting _ => true
      | _ => false
    if top.operandsOnly || waiting || !Reading.isCommandName arg then
      let top ← top.step .top arg
      readFrom environment top args
    else
      match Reading.commandNames.lookup arg with
      | none => throw (helpOn args)
      | some level =>
        let (inner, command) ← readCommand environment level args
        let top ← top.finish .top environment
        top.checkConflicts
        pure (combine environment top inner command)

/-- Read the arguments; the environment may name the file of the profile. -/
def read (environment : Option String) (args : List String) : Attempt Arguments :=
  readFrom environment {} args

end Arguments

end LogQuery.CommandLine
