import LogQuery.Filter.Compare
import LogQuery.Filter.Registry

/-!
# Filter.Evaluate — the verdict of a filter on a record

Evaluation never fails: what goes wrong is recorded in a `Context`, and the part of the filter that
recorded it counts as false. References to saved filters are followed, and the context keeps the
names on the way down, so that a cycle is found where it closes.

* `Evaluator.visit` walks a filter; its first argument is the number of levels left below it, which are those
  between the depth of the context and the limit.
* `Evaluator.evaluate` starts with a fresh context and all levels up to the limit.
-/

namespace LogQuery.Filter

/-- What is known at a point of an evaluation. -/
structure Context where
  /-- The errors in the order in which they were recorded. -/
  errors : List EvalError := []
  /-- The saved filters being evaluated on the way from the root, in lower case. -/
  trail : List String := []
  /-- The number of levels above this point. -/
  depth : Nat := 0
  deriving DecidableEq

/-- Whether the error is that the limit on levels was met. -/
def EvalError.isDepth : EvalError → Bool
  | .depthExceeded _ => true
  | _ => false

namespace Context

/-- Whether nothing went wrong. -/
def success (c : Context) : Bool := c.errors.isEmpty

/-- All messages, one on a line. -/
def errorText (c : Context) : String :=
  String.intercalate "\n" (c.errors.map EvalError.message)

/-- Record an error. -/
def addError (c : Context) (e : EvalError) : Context := { c with errors := c.errors ++ [e] }

/-- Record that the limit was met. It is recorded once in an evaluation. -/
def exceedDepth (c : Context) (limit : Nat) : Context :=
  if c.errors.any EvalError.isDepth then c else c.addError (.depthExceeded limit)

/-- Go one level down. -/
def descend (c : Context) : Context := { c with depth := c.depth + 1 }

/-- Go one level up. -/
def ascend (c : Context) : Context := { c with depth := c.depth - 1 }

/-- Start a saved filter, by its name in lower case. -/
def enter (c : Context) (key : String) : Context := { c with trail := c.trail ++ [key] }

/-- Leave the saved filter started last. -/
def leave (c : Context) : Context := { c with trail := c.trail.dropLast }

end Context

/-- How filters are evaluated: how fields are read, the saved filters, and the limit on levels. -/
structure Evaluator (ρ : Type) where
  resolver : Resolver ρ
  registry : Registry
  maxDepth : Nat := defaultDepth

namespace Evaluator

variable {ρ : Type}

/-- The limit on levels, at least one. -/
def limit (e : Evaluator ρ) : Nat := max e.maxDepth 1

/-- Evaluate a saved filter by name, with `visit` for its body; none once an error is recorded. -/
def follow (e : Evaluator ρ) (visit : Node → Context → Bool × Context) (name : String)
    (c : Context) : Option Bool × Context :=
  match e.registry.lookup name with
  | none => (none, c.addError (.aliasNotFound name))
  | some rule =>
    let key := Text.lower name
    if key ∈ c.trail then (none, c.addError (.cyclicAlias (c.trail ++ [key])))
    else
      let (verdict, c) := visit rule.root (c.enter key)
      (some verdict, c.leave)

/-- Look up a side of a comparison; none once an error is recorded. -/
def side (e : Evaluator ρ) (visit : Node → Context → Bool × Context) (record : ρ) (o : Operand)
    (c : Context) : Option Side × Context :=
  match o with
  | .literal l => (some (.literal l), c)
  | .field f =>
    match e.resolver.resolve record f.name with
    | some field => (some (.field f.name field), c)
    | none => (none, c.addError (.fieldNotFound f.name))
  | .rule name =>
    let (verdict?, c) := e.follow visit name c
    (verdict?.map fun verdict => .field name ⟨.boolean verdict, .boolean⟩, c)

/-- Evaluate a comparison. The right side is looked up only if the left one was found. -/
def visitComparison (e : Evaluator ρ) (visit : Node → Context → Bool × Context) (record : ρ)
    (cmp : Comparison) (c : Context) : Bool × Context :=
  match e.side visit record cmp.left c with
  | (none, c) => (false, c)
  | (some left, c) =>
    match e.side visit record cmp.right c with
    | (none, c) => (false, c)
    | (some right, c) =>
      match compare cmp.op left right with
      | .ok verdict => (verdict, c)
      | .error err => (false, c.addError err)

/-- Evaluate the further parts of an expression, up to the first that decides it: a false one for
`and`, a true one for `or`. The verdict so far comes first. -/
def visitRest (visit : Node → Context → Bool × Context) (op : Connective) :
    Bool → List Node → Context → Bool × Context
  | verdict, [], c => (verdict, c)
  | verdict, node :: nodes, c =>
    if verdict = decide (op = .or) then (verdict, c)
    else
      let (verdict, c) := visit node c
      visitRest visit op verdict nodes c

/-- Whether the text of the record contains a term in any case. -/
def searchText (e : Evaluator ρ) (record : ρ) (term : String) : Bool :=
  Text.contains (Text.lower (e.resolver.fullText record)) (Text.lower term)

/-- Evaluate a filter on a record one level down, with `visit` for its parts. -/
def visitParts (e : Evaluator ρ) (visit : Node → Context → Bool × Context) (record : ρ)
    (node : Node) (c : Context) : Bool × Context :=
  let (verdict, c) := match node, c.descend with
    | .expression op negated first rest, c =>
      let (verdict, c) := visit first c
      let (verdict, c) := visitRest visit op verdict rest c
      (verdict != negated, c)
    | .comparison cmp, c => e.visitComparison visit record cmp c
    | .search term, c => (e.searchText record term, c)
    | .alias name, c =>
      let (verdict?, c) := e.follow visit name c
      (verdict?.getD false, c)
  (verdict, c.ascend)

/-- Evaluate a filter on a record, with a number of levels left. -/
def visit (e : Evaluator ρ) (record : ρ) : Nat → Node → Context → Bool × Context
  | 0, _, c => (false, c.exceedDepth e.limit)
  | levels + 1, node, c => e.visitParts (e.visit record levels) record node c

/-- The verdict of a filter on a record, with all that was recorded on the way. -/
def evaluate (e : Evaluator ρ) (node : Node) (record : ρ) : Bool × Context :=
  e.visit record e.limit node {}

/-- The verdict of a filter on a record. -/
def accepts (e : Evaluator ρ) (node : Node) (record : ρ) : Bool := (e.evaluate node record).1

end Evaluator

end LogQuery.Filter
