import LogQuery.Color.Rule
import LogQuery.File
import LogQuery.Filter.Library
import LogQuery.Filter.Printer
import LogQuery.Filter.Reader
import LogQuery.Log.Fields

/-!
# Profile — saved filters and color rules as they are configured

A profile holds texts only; the library and the color rules are made from it, in order, and a saved
filter may refer only to those above it.

* `Profile.library` and `Profile.readColorRules` read the filters of a profile, or say what is
  wrong.
* `Profile.toJson` lists a profile.
-/

namespace LogQuery

open LogQuery.Filter

/-- A saved filter as it is configured. -/
structure SavedFilter where
  name : String
  filter : String
  deriving DecidableEq

/-- A color rule as it is configured. -/
structure SavedColorRule where
  name : String
  filter : String
  foreground : Option String := none
  background : Option String := none
  priority : Int := 0
  enabled : Bool := true
  deriving DecidableEq

/-- Saved filters, color rules, and how filters are read and evaluated. -/
structure Profile where
  name : String := "base"
  maxDepth : Nat := defaultDepth
  /-- The text fields that are compared without regard to case. -/
  ignoringCase : List String := ["level"]
  filters : List SavedFilter := []
  colorRules : List SavedColorRule := []
  deriving DecidableEq

/-- Why a profile cannot be used. -/
inductive ProfileError where
  | unreadable (file : String) (problem : FileError)
  | malformed (file : String)
  | invalidFilter (name : String) (error : ReadError)
  | invalidColorRule (name : String) (error : ReadError)
  | unknownColor (name : String) (color : String)
  | library (error : LibraryError)
  deriving DecidableEq

namespace ProfileError

/-- The wording of a malformed file. What is wrong in it is not spelled out. -/
def malformedText : String := "<toml>"

/-- The wording of an error. -/
def message : ProfileError → String
  | .unreadable file problem => "Failed to read config file '" ++ file ++ "': " ++ problem.text
  | .malformed file => "Failed to parse config file '" ++ file ++ "': " ++ malformedText
  | .invalidFilter name error => "Saved filter '" ++ name ++ "' does not parse: " ++ error.message
  | .invalidColorRule name error => "Color rule '" ++ name ++ "' does not parse: " ++ error.message
  | .unknownColor name color => "Color rule '" ++ name ++ "' uses unknown color '" ++ color ++ "'"
  | .library error => error.message

/-- The wording of an error, followed by that of its cause if it has one. -/
def messages (e : ProfileError) : List String :=
  e.message ::
    match e with
    | .unreadable _ problem => [problem.text]
    | .malformed _ => [malformedText]
    | .invalidFilter _ error | .invalidColorRule _ error => [error.message]
    | .unknownColor .. | .library _ => []

end ProfileError

namespace Profile

/-- How filters over declared fields are read beside the saved filters that are there already. -/
def readerOver (p : Profile) (catalog : Catalog) (library : Library) : Reader :=
  { catalog, registry := some library.rules, maxDepth := p.maxDepth }

/-- How the filters of a profile are read beside the saved filters that are there already. -/
def reader (p : Profile) (library : Library) : Reader :=
  p.readerOver (Log.catalog p.ignoringCase) library

/-- How the filters of a profile are evaluated. -/
def evaluator (p : Profile) (library : Library) : Evaluator Log.Entry :=
  { resolver := Log.resolver p.ignoringCase, registry := library.rules, maxDepth := p.maxDepth }

/-- Read a saved filter and add it to the library of those above it. -/
def addSaved (p : Profile) (catalog : Catalog) (library : Library) (saved : SavedFilter) :
    Except ProfileError Library := do
  let root ← ((p.readerOver catalog library).read saved.filter).mapError (.invalidFilter saved.name)
  (library.add (.named saved.name root)).mapError .library

/-- The library of saved filters over declared fields, made in their order. -/
def libraryOver (p : Profile) (catalog : Catalog) (filters : List SavedFilter) :
    Except ProfileError Library :=
  filters.foldlM (p.addSaved catalog) {}

/-- The library of the saved filters of a profile. -/
def library (p : Profile) : Except ProfileError Library :=
  p.libraryOver (Log.catalog p.ignoringCase) p.filters

/-- The color with a name, in the color rule `rule`. -/
def colorNamed (rule : String) : Option String → Except ProfileError (Option Color)
  | none => .ok none
  | some name =>
    match Color.ofText? name with
    | some color => .ok (some color)
    | none => .error (.unknownColor rule name)

/-- Read a color rule: its filter, then its colors. -/
def colorRule (p : Profile) (library : Library) (saved : SavedColorRule) :
    Except ProfileError ColorRule := do
  let root ← ((p.reader library).read saved.filter).mapError (.invalidColorRule saved.name)
  let foreground ← colorNamed saved.name saved.foreground
  let background ← colorNamed saved.name saved.background
  pure {
    rule := .named saved.name root
    foreground
    background
    priority := saved.priority
    enabled := saved.enabled }

/-- The color rules, which may refer to any saved filter. -/
def readColorRules (p : Profile) (library : Library) : Except ProfileError (List ColorRule) :=
  p.colorRules.mapM (p.colorRule library)

/-- A saved filter as a value. -/
def savedJson (saved : SavedFilter) : Json :=
  .object [("name", .text saved.name), ("filter", .text saved.filter)]

/-- A color rule as a value. -/
def savedColorJson (saved : SavedColorRule) : Json :=
  .object [
    ("name", .text saved.name),
    ("filter", .text saved.filter),
    ("foreground", .text? saved.foreground),
    ("background", .text? saved.background),
    ("priority", .integer saved.priority),
    ("enabled", .boolean saved.enabled)]

/-- A profile as a value. -/
def toJson (p : Profile) : Json :=
  .object [
    ("profile_name", .text p.name),
    ("evaluation", .object [("max_depth", .nat p.maxDepth)]),
    ("fields", .object [("case_insensitive", .texts p.ignoringCase)]),
    ("filters", .array (p.filters.map savedJson)),
    ("color_rules", .array (p.colorRules.map savedColorJson))]

end Profile

end LogQuery
