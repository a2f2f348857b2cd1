import LogQuery.Pattern.Reader

/-!
# Pattern — regular expressions with their matchers

A pattern keeps its source and, if the source is well formed, the expressions for a match anywhere
in a text and for a match of the whole text. The source determines both, so patterns are compared
by source. A source counts as well formed only if it also is when it stands between anchors.

* `Pattern.ext_source`: patterns with one source are equal.
-/

namespace LogQuery

/-- The expressions of a well-formed source: as it stands, and anchored at both ends. -/
structure Pattern.Program where
  anywhere : Pattern.Expr
  whole : Pattern.Expr

/-- The source between anchors. -/
def Pattern.anchored (source : String) : List Char :=
  "^(?:".toList ++ source.toList ++ ")$".toList

/-- The expressions of a source; none if it is not well formed. -/
def Pattern.compile? (source : String) : Option Pattern.Program := do
  let anywhere ← Pattern.read? source.toList
  let whole ← Pattern.read? (Pattern.anchored source)
  pure ⟨anywhere, whole⟩

/-- A pattern: its source and what the source is read as. -/
structure Pattern where
  source : String
  program : Option Pattern.Program
  program_eq : program = Pattern.compile? source

namespace Pattern

/-- The pattern with a source, well formed or not. -/
def ofSource (source : String) : Pattern := ⟨source, compile? source, rfl⟩

/-- Whether the source is well formed. -/
def isValid (p : Pattern) : Bool := p.program.isSome

/-- The pattern with a source, if that is well formed. -/
def ofSource? (source : String) : Option Pattern :=
  let p := ofSource source
  if p.isValid then some p else none

/-- Whether some part of the text matches; none if the pattern is not well formed. -/
def find (p : Pattern) (text : String) : Option Bool :=
  p.program.map fun program => program.anywhere.matches (.ofString text)

/-- Whether the whole text matches; none if the pattern is not well formed. -/
def fullMatch (p : Pattern) (text : String) : Option Bool :=
  p.program.map fun program => program.whole.matches (.ofString text)

@[ext] theorem ext_source {p q : Pattern} (h : p.source = q.source) : p = q := by
  obtain ⟨s, a, ha⟩ := p
  obtain ⟨t, b, hb⟩ := q
  subst h ha hb
  rfl

theorem eq_ofSource (p : Pattern) : p = ofSource p.source := ext_source rfl

instance : DecidableEq Pattern := fun p q =>
  if h : p.source = q.source then isTrue (ext_source h) else isFalse fun e => h (e ▸ rfl)

end Pattern

end LogQuery
