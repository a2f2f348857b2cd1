import LogQuery.Filter.Dependencies

/-!
# Filter.Library — a library of saved filters

Rules are stored under their names in lower case. A rule comes in only if its name is free, or taken
by the rule it replaces, and if everything it refers to is there without a cycle.

* `Library.Update`: what stores a rule. `Library.update` runs it: there is a library after it in any case, also if
  it was refused.
* `Library.add`, `Library.replace`: the library after an update that was not refused.
* `Library.remove` takes a rule out, and is never refused.
-/

namespace LogQuery.Filter

/-- A library of saved filters. -/
structure Library where
  rules : Registry := .empty

namespace Library

/-- The saved filter with a name, in any case. -/
def get? (l : Library) (name : String) : Option Rule := l.rules.lookup name

/-- The key of a rule: its name in lower case. The empty name has none. -/
def keyOf (rule : Rule) : Except LibraryError String :=
  if rule.name = "" then .error .emptyName else .ok (Text.lower rule.name)

/-- Check a rule as if it were stored under a key: all that it refers to has to be there without a cycle. -/
def validate (l : Library) (key : String) (rule : Rule) : Except LibraryError Unit :=
  let errors := (dependencies (.aliasOf rule.name) (l.rules.insert key rule) true).errors
  if errors.isEmpty then .ok () else .error (.invalidDependencies rule.name errors)

/-- A step that may change a library and may be refused, both at once. -/
abbrev Update (α : Type) := ExceptT LibraryError (StateM Library) α

/-- Run an update on a library: its answer or its error, and the library after it. -/
def update {α : Type} (l : Library) (u : Update α) : Except LibraryError α × Library :=
  (StateT.run (ExceptT.run u) l).run

/-- Store a rule under a key, and give the rule that was there. -/
def Update.insert (key : String) (rule : Rule) : Update (Option Rule) :=
  modifyGet fun l => (l.rules.get? key, ⟨l.rules.insert key rule⟩)

/-- Add a rule under a name that is free. -/
def Update.add (rule : Rule) : Update Rule := do
  let key ← keyOf rule
  let l ← get
  if l.rules.contains key then throw (.duplicate rule.name)
  l.validate key rule
  let _ ← insert key rule
  return rule

/-- Put a rule in the place of the one with its name, which is given back. -/
def Update.replace (rule : Rule) : Update Rule := do
  let key ← keyOf rule
  let l ← get
  unless l.rules.contains key do throw (.missing rule.name)
  l.validate key rule
  match ← insert key rule with
  | some old => return old
  | none => throw (.missing rule.name)

/-- The library with a rule added, unless it is refused. -/
def add (l : Library) (rule : Rule) : Except LibraryError Library :=
  let (added, l) := l.update (.add rule)
  added.map fun _ => l

/-- The library with a rule in the place of the one with its name, and that one, unless it is refused. -/
def replace (l : Library) (rule : Rule) : Except LibraryError (Rule × Library) :=
  let (old, l) := l.update (.replace rule)
  old.map fun old => (old, l)

/-- Remove the rule with a name, in any case, and return it. -/
def remove (l : Library) (name : String) : Option Rule × Library :=
  let key := Text.lower name
  (l.rules.get? key, ⟨l.rules.erase key⟩)

/-- The rules in the order of their keys. -/
def toList (l : Library) : List Rule := l.rules.values

/-- The names of the rules in the order of their keys. -/
def names (l : Library) : List String := l.toList.map (·.name)

/-- The number of rules. -/
def size (l : Library) : Nat := l.rules.size

end Library

end LogQuery.Filter
