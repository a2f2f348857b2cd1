import LogQuery.Text.Lowercase

/-!
# Filter.Operator — comparison operators and connectives

* `Comparator.mirrored_mirrored`: swapping sides twice gives the operator back.
* `Comparator.ofText?` reads the label of an operator in any case.
-/

namespace LogQuery.Filter

/-- The operators between the two sides of a comparison. -/
inductive Comparator where
  | equal
  | notEqual
  | greater
  | less
  | greaterEqual
  | lessEqual
  /-- The left side has the right side as a member or as a part. -/
  | contains
  /-- The left side is a member or a part of the right side. -/
  | isIn
  /-- The whole text matches a pattern. -/
  | matches
  deriving DecidableEq, Repr

namespace Comparator

/-- All operators. -/
def all : List Comparator :=
  [.equal, .notEqual, .greater, .less, .greaterEqual, .lessEqual, .contains, .isIn, .matches]

/-- The operator as it is written in a filter. -/
def label : Comparator → String
  | .equal => "=="
  | .notEqual => "!="
  | .greater => ">"
  | .less => "<"
  | .greaterEqual => ">="
  | .lessEqual => "<="
  | .contains => "CONTAINS"
  | .isIn => "IN"
  | .matches => "MATCHES"

/-- Whether the operator asks for an order of its sides. -/
def isOrdering : Comparator → Bool
  | .greater | .less | .greaterEqual | .lessEqual => true
  | _ => false

/-- The operator that means the same when the sides are swapped. -/
def mirrored : Comparator → Comparator
  | .greater => .less
  | .less => .greater
  | .greaterEqual => .lessEqual
  | .lessEqual => .greaterEqual
  | .contains => .isIn
  | .isIn => .contains
  | op => op

/-- The operator with this label, in any case. -/
def ofText? (s : String) : Option Comparator :=
  all.find? fun op => Text.eqIgnoringAsciiCase op.label s

theorem mirrored_mirrored (op : Comparator) : op.mirrored.mirrored = op := by cases op <;> rfl

end Comparator

/-- The connectives between the parts of an expression. -/
inductive Connective where
  | and
  | or
  deriving DecidableEq, Repr

namespace Connective

/-- The connective as it is written in a filter. -/
def label : Connective → String
  | .and => "AND"
  | .or => "OR"

/-- The connective with this spelling; words may be in any case. -/
def ofText? (s : String) : Option Connective :=
  if Text.eqIgnoringAsciiCase s "AND" || s == "&&" then some .and
  else if Text.eqIgnoringAsciiCase s "OR" || s == "||" then some .or
  else none

end Connective

end LogQuery.Filter
