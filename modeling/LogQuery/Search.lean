import LogQuery.Color.Rule
import LogQuery.Keyed
import LogQuery.Log.Fields

/-!
# Search — the entries of a log that a filter accepts

* `Findings.of` evaluates a filter on every entry, `Findings.withColors` adds the winning color
  rules of the entries found.
* `rows` adds the entries around those found.
-/

namespace LogQuery.Search

open LogQuery.Filter

/-- What was recorded while the filter was evaluated on one entry. -/
structure Diagnostic where
  /-- The index of the entry. -/
  index : Nat
  /-- The line of the entry in its log. -/
  line : Nat
  errors : List EvalError

/-- The result of a search. -/
structure Findings where
  /-- The indices of the entries found, in order. -/
  found : List Nat
  diagnostics : List Diagnostic
  /-- The indices of entries with the indices of their color rules. -/
  colors : List (Nat × Nat) := []

namespace Findings

/-- The verdicts on the entries that start at `index`. -/
def verdicts (e : Evaluator Log.Entry) (node : Node) (index : Nat) :
    List Log.Entry → List (Nat × Log.Entry × Bool × Context)
  | [] => []
  | entry :: rest => (index, entry, e.evaluate node entry) :: verdicts e node (index + 1) rest

/-- Evaluate a filter on all entries. -/
def of (e : Evaluator Log.Entry) (node : Node) (entries : List Log.Entry) : Findings :=
  let all := verdicts e node 0 entries
  { found := all.filterMap fun (index, _, accepted, _) => if accepted then some index else none
    diagnostics := all.filterMap fun (index, entry, _, c) =>
      if c.success then none else some ⟨index, entry.line, c.errors⟩ }

/-- Add the color rules of the entries found. -/
def withColors (e : Evaluator Log.Entry) (rules : List ColorRule) (entries : List Log.Entry)
    (f : Findings) : Findings :=
  { f with
    colors := f.found.filterMap fun index => do
      let entry ← entries[index]?
      let rule ← ColorRule.pick e rules entry
      pure (index, rule) }

/-- The index of the color rule of an entry. -/
def colorOf (f : Findings) (index : Nat) : Option Nat := f.colors.lookup index

/-- The messages in order, each with the lines of the entries that it was recorded for. -/
def grouped (f : Findings) : Keyed (List Nat) :=
  let all := f.diagnostics.flatMap fun d => d.errors.map fun e => (e.message, d.line)
  all.foldl (fun groups (message, line) =>
    groups.insert message ((groups.get? message).getD [] ++ [line])) .empty

end Findings

/-! ## Rows -/

/-- An entry to be shown. -/
structure Row where
  index : Nat
  found : Bool
  /-- Whether entries are left out between the row before and this one. -/
  afterGap : Bool
  deriving DecidableEq, Repr

/-- The largest index that a log can have. -/
def maxIndex : Nat := 2 ^ 64 - 1

/-- The indices at most `context` away from an index, in a log with `total` entries. A sum that is
too large for an index stands for the largest one. -/
def window (total context index : Nat) : List Nat :=
  let first := index - context
  let last := min (min (index + context) maxIndex) (total - 1)
  List.range' first (last + 1 - first)

/-- The indices to be shown, in order: those in the windows around the entries found. -/
def shownIndices (total context : Nat) (found : List Nat) : List Nat :=
  found.foldl (fun shown index =>
    (window total context index).foldl (fun shown i => insertOrdered i shown) shown) []

/-- The rows of increasing indices; `last` is the index of the row before. -/
def rowsFrom (found : List Nat) (last : Option Nat) : List Nat → List Row
  | [] => []
  | index :: rest =>
    ⟨index, found.contains index, last.any fun before => before + 1 < index⟩ ::
      rowsFrom found (some index) rest

/-- The rows to be shown of a log with `total` entries. -/
def rows (total context : Nat) (found : List Nat) : List Row :=
  if total = 0 ∨ found.isEmpty then [] else rowsFrom found none (shownIndices total context found)

end LogQuery.Search
