import LogQuery.Filter.Field
import LogQuery.Filter.Operator
import LogQuery.Pattern
import LogQuery.Text.Blank

/-!
# Filter.Tree — filters as trees

A filter is an expression over comparisons, searches for a text, and references to saved filters by
name. A tree never holds another filter, only its name, so a tree alone has no cycle.

* `Node.not` negates; a plain expression takes the negation itself.
* `Rule.withCondition` joins a condition to a saved filter and keeps the grouping it has.
* `isNameChar_of_mem_sanitize`: the names of saved filters hold allowed characters only.
-/

namespace LogQuery.Filter

/-! ## Names -/

/-- The characters of field names and of the names of saved filters. -/
def isNameChar (c : Char) : Bool := c.isAlphanum || c == '_' || c == '.'

/-- The character itself if a name may hold it, else an underscore. -/
def nameChar (c : Char) : Char := if isNameChar c then c else '_'

/-- The name of a saved filter: trimmed, with underscores for what a name may not hold. -/
def sanitize (name : String) : String :=
  String.ofList ((Text.trimChars name.toList).map nameChar)

theorem isNameChar_nameChar (c : Char) : isNameChar (nameChar c) = true := by
  unfold nameChar
  split
  · assumption
  · rfl

theorem isNameChar_of_mem_sanitize {name : String} {c : Char} (h : c ∈ (sanitize name).toList) :
    isNameChar c = true := by
  simp only [sanitize, String.toList_ofList, List.mem_map] at h
  obtain ⟨d, _, rfl⟩ := h
  exact isNameChar_nameChar d

/-! ## Trees -/

/-- A constant in a comparison. -/
inductive Literal where
  | text (s : String)
  | pattern (p : Pattern)
  | date (d : Instant)
  | number (n : Number)
  | boolean (b : Bool)
  | set (members : List String)
  deriving DecidableEq

/-- A field with its declared type. -/
structure FieldRef where
  name : String
  type : FieldType
  deriving DecidableEq

/-- One side of a comparison. -/
inductive Operand where
  | field (f : FieldRef)
  | literal (l : Literal)
  /-- The verdict of a saved filter as a truth value. -/
  | rule (name : String)
  deriving DecidableEq

/-- A comparison of two sides. -/
structure Comparison where
  left : Operand
  op : Comparator
  right : Operand
  deriving DecidableEq

/-- A filter. -/
inductive Node where
  /-- One or more parts joined by a connective. -/
  | expression (op : Connective) (negated : Bool) (first : Node) (rest : List Node)
  | comparison (c : Comparison)
  /-- A text that the record contains somewhere, in any case. -/
  | search (term : String)
  /-- A saved filter, by its name. -/
  | alias (name : String)

namespace Node

/-- A comparison as a filter. -/
def compare (left : Operand) (op : Comparator) (right : Operand) : Node :=
  .comparison ⟨left, op, right⟩

/-- The reference to a saved filter whose name is put into its stored form. -/
def aliasOf (name : String) : Node := .alias (sanitize name)

/-- The parts joined by a connective; none if there are no parts. -/
def join? (op : Connective) : List Node → Option Node
  | [] => none
  | first :: rest => some (.expression op false first rest)

/-- The opposite filter. A plain expression is negated itself, any other filter is wrapped. -/
def not : Node → Node
  | .expression op false first rest => .expression op true first rest
  | n => .expression .and true n []

/-- Whether the node is an expression. -/
def isExpression : Node → Bool
  | .expression .. => true
  | _ => false

/-- Whether the node is an expression that is not negated. -/
def isPlain : Node → Bool
  | .expression _ negated _ _ => !negated
  | _ => false

/-- The node itself if it is an expression, else an expression with this one part. -/
def asExpression : Node → Node
  | .expression op negated first rest => .expression op negated first rest
  | n => .expression .and false n []

/-- The parts of an expression. -/
def children? : Node → Option (List Node)
  | .expression _ _ first rest => some (first :: rest)
  | _ => none

end Node

/-! ## Equality of value -/

/-- Equality of constants, with numbers compared by value. -/
def Literal.same : Literal → Literal → Bool
  | .number a, .number b => a.equals b
  | a, b => a == b

/-- Equality of sides, with numbers compared by value. -/
def Operand.same : Operand → Operand → Bool
  | .literal a, .literal b => a.same b
  | a, b => a == b

/-- Equality of comparisons, with numbers compared by value. -/
def Comparison.same (a b : Comparison) : Bool :=
  a.left.same b.left && a.op == b.op && a.right.same b.right

mutual

/-- Equality of filters, with numbers compared by value: a NaN differs from itself. -/
def Node.same : Node → Node → Bool
  | .expression op negated first rest, .expression op' negated' first' rest' =>
    op == op' && negated == negated' && first.same first' && sameAll rest rest'
  | .comparison a, .comparison b => a.same b
  | .search a, .search b => a == b
  | .alias a, .alias b => a == b
  | _, _ => false

/-- Equality of lists of filters, part by part. -/
def sameAll : List Node → List Node → Bool
  | [], [] => true
  | a :: as, b :: bs => a.same b && sameAll as bs
  | _, _ => false

end

/-! ## Saved filters -/

/-- A filter saved under a name. The name holds allowed characters only. -/
structure Rule where
  name : String
  root : Node
  name_allowed : ∀ c ∈ name.toList, isNameChar c = true

namespace Rule

/-- The saved filter with a name, put into its stored form, and a body. -/
def named (name : String) (root : Node) : Rule :=
  ⟨sanitize name, root, fun _ h => isNameChar_of_mem_sanitize h⟩

/-- The saved filter with another body. -/
def withRoot (r : Rule) (root : Node) : Rule := ⟨r.name, root, r.name_allowed⟩

/-- Join a condition to the body. A plain body with the same connective, or with one part only,
takes the condition as a further part; any other body becomes a part of its own. -/
def withCondition (r : Rule) (op : Connective) (condition : Node) : Rule :=
  r.withRoot <|
    match r.root with
    | .expression op' false first rest =>
      if op' = op || rest.isEmpty then .expression op false first (rest ++ [condition])
      else .expression op false (.expression op' false first rest) [condition]
    | body => .expression op false body [condition]

end Rule

end LogQuery.Filter
