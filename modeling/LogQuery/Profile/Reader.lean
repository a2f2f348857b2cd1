import LogQuery.Profile
import LogQuery.Toml.Reader

/-!
# Profile.Reader — profiles from the text of a configuration

What a configuration leaves out has its default, and what a profile does not know is ignored.

* `Profile.ofText?` reads a profile, `Profile.ofFile` also tells why a file holds none.
-/

namespace LogQuery.Profile

open Toml

/-- Read the limit on nesting. -/
def readDepth? (v : Toml) : Option Nat := do
  let fields ← fields? ["max_depth"] v
  let depth := fun v => (integer? 0 (2 ^ 64 - 1) v).map Int.toNat
  optional? fields "max_depth" depth Filter.defaultDepth

/-- Read the fields that are compared without regard to case. -/
def readIgnoringCase? (v : Toml) : Option (List String) := do
  let fields ← fields? ["case_insensitive"] v
  optional? fields "case_insensitive" (list? text?) ["level"]

/-- Read a saved filter. -/
def readFilter? (v : Toml) : Option SavedFilter := do
  let fields ← fields? ["name", "filter"] v
  let name ← required? fields "name" text?
  let filter ← required? fields "filter" text?
  pure { name, filter }

/-- Read a color rule. -/
def readColorRule? (v : Toml) : Option SavedColorRule := do
  let fields ← fields? ["name", "filter", "foreground", "background", "priority", "enabled"] v
  let name ← required? fields "name" text?
  let filter ← required? fields "filter" text?
  let foreground ← optional? fields "foreground" (fun v => (text? v).map some) none
  let background ← optional? fields "background" (fun v => (text? v).map some) none
  let priority ← optional? fields "priority" (integer? (-2 ^ 31) (2 ^ 31 - 1)) 0
  let enabled ← optional? fields "enabled" boolean? true
  pure { name, filter, foreground, background, priority, enabled }

/-- Read a profile from a table. -/
def ofEntries? (entries : Entries) : Option Profile := do
  let name ← optional? entries "profile_name" text? "base"
  let maxDepth ← optional? entries "evaluation" readDepth? Filter.defaultDepth
  let ignoringCase ← optional? entries "fields" readIgnoringCase? ["level"]
  let filters ← optional? entries "filters" (list? readFilter?) []
  let colorRules ← optional? entries "color_rules" (list? readColorRule?) []
  pure { name, maxDepth, ignoringCase, filters, colorRules }

/-- Read a profile from the text of a configuration. -/
def ofText? (s : String) : Option Profile := (Toml.ofText? s).bind ofEntries?

/-- Read a profile from what a file with the given name holds. -/
def ofFile (file : String) (content : Except FileError ByteArray) :
    Except ProfileError Profile := do
  let document ← (content.bind textOfBytes).mapError (.unreadable file)
  match ofText? document with
  | some p => pure p
  | none => throw (.malformed file)

end LogQuery.Profile
