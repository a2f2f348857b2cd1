import LogQuery.Filter.Lexer
import LogQuery.Filter.Registry

/-!
# Filter.Reader — from text to a filter

```text
disjunction := conjunction ( OR conjunction )*
conjunction := unary ( AND unary )*
unary       := "!" unary | "(" disjunction ")" | leaf
leaf        := "#" name | string | name | operand op operand
```

A chain of one connective is one expression. Negations and groups may be nested up to a limit; each
of them takes one level, and reading a level needs those below it only. A constant is typed by the
field that it is compared with.

* `Reader.read` reads a whole text; the root is always an expression.
* `Scope.unary` reads one operand of a connective with a number of levels left.
-/

namespace LogQuery.Filter

/-- How filters are read: the fields they may name, the saved filters they may name without `#`,
and how deeply negations and groups may be nested. -/
structure Reader where
  catalog : Catalog
  registry : Option Registry := none
  maxDepth : Nat := defaultDepth

/-- What the reading of one text needs to know. -/
structure Scope where
  reader : Reader
  /-- The limit on nesting, at least one. -/
  limit : Nat
  /-- Where the last token of the text starts. -/
  lastPosition : Nat

/-- Read something from the front of the tokens. -/
abbrev Reading (α : Type) := List Located → Except ReadError (α × List Located)

/-- Whether the name is that of a saved filter. -/
def Reader.isRule (r : Reader) (name : String) : Bool :=
  r.registry.any fun registry => registry.has name

/-! ## Typing of constants -/

/-- The pattern with a source. -/
def patternOf (source : String) : Except ReadError Literal :=
  match Pattern.ofSource? source with
  | some p => .ok (.pattern p)
  | none => .error (.invalidPattern source)

/-- A constant as a side of a comparison with a field: a text is a pattern if it is matched with,
and a date if the field holds dates. -/
def typeLiteral (f : FieldRef) (op : Comparator) : Literal → Except ReadError Literal
  | .text s =>
    if op = .matches then patternOf s
    else if f.type = .date then
      match Instant.ofText? s with
      | some d => .ok (.date d)
      | none =>
        .error (.invalidValue f.name
          ("\"" ++ s ++ "\" is not a date in the canonical format " ++ dateFormat))
    else .ok (.text s)
  | l => .ok l

/-- A constant as it is named in messages. -/
def Literal.describe : Literal → String
  | .text s => "string \"" ++ s ++ "\""
  | .pattern p => "pattern /" ++ p.source ++ "/"
  | .date _ => "date"
  | .number n => "number " ++ n.canonical
  | .boolean b => booleanText b
  | .set _ => "set"

/-- What a side compares: a field with its type, or the verdict of a saved filter. -/
def Operand.subject? : Operand → Option (String × FieldType)
  | .field f => some (f.name, f.type)
  | .rule name => some (name, .boolean)
  | .literal _ => none

/-- Whether the side is a pattern. -/
def Operand.isPattern : Operand → Bool
  | .literal (.pattern _) => true
  | _ => false

/-- Type the constants of a comparison. A constant on the left is typed as if the sides were
swapped; two constants cannot be compared. -/
def typeSides (left : Operand) (op : Comparator) (right : Operand) (position : Nat) :
    Except ReadError (Operand × Operand) :=
  match left, right with
  | .literal _, .literal r => .error (.unexpected r.describe .fieldOnOneSide position)
  | .field f, .literal l => (typeLiteral f op l).map fun l => (.field f, .literal l)
  | .literal l, .field f => (typeLiteral f op.mirrored l).map fun l => (.literal l, .field f)
  | left, right => .ok (left, right)

/-- The subject of a comparison: that of the left side, else that of the right side. -/
def subjectOf (left right : Operand) : Option (String × FieldType) :=
  left.subject? <|> right.subject?

/-- A pattern is searched for or matched with, nothing else. -/
def checkPattern (left : Operand) (op : Comparator) (right : Operand) : Except ReadError Unit :=
  if left.isPattern || right.isPattern then
    if op = .equal ∨ op = .notEqual ∨ op = .matches then .ok ()
    else
      .error (.invalidValue ((subjectOf left right).map (·.1) |>.getD "")
        ("operator " ++ op.label ++ " cannot be used with a pattern"))
  else .ok ()

/-- Only a subject of an ordered type is compared by order. -/
def checkOrdering (left : Operand) (op : Comparator) (right : Operand) : Except ReadError Unit :=
  match subjectOf left right with
  | some (name, type) =>
    if op.isOrdering && !type.isOrdered then .error (.incompatibleOperator op name type) else .ok ()
  | none => .ok ()

/-- The comparison of two sides whose operator stands at `position`. -/
def comparisonOf (left : Operand) (op : Comparator) (right : Operand) (position : Nat) :
    Except ReadError Node := do
  let (left, right) ← typeSides left op right position
  checkPattern left op right
  checkOrdering left op right
  pure (.compare left op right)

/-! ## Operands and leaves -/

/-- The side that a name stands for: a field, else a saved filter, else the number that is none. -/
def Reader.nameOperand (r : Reader) (name : String) : Except ReadError Operand :=
  match r.catalog name with
  | some type => .ok (.field ⟨name, type⟩)
  | none =>
    if r.isRule name then .ok (.rule name)
    else if name = "NaN" then .ok (.literal (.number .nan))
    else .error (.unknownField name)

/-- The text of a member of a set. -/
def Token.member? : Token → Option String
  | .text s => some s
  | .number n => some n.canonical
  | _ => none

/-- Read the members of a set, at least one, up to its closing bracket. The set began at `start`. -/
def setMembers (start : Nat) : Reading (List String)
  | [] => .error (.unterminated .set start)
  | ⟨t, position⟩ :: ts =>
    match t.member? with
    | none => .error (.unexpected t.describe .setMember position)
    | some member =>
      match ts with
      | [] => .error (.unterminated .set start)
      | ⟨.rightBracket, _⟩ :: ts => .ok ([member], ts)
      | ⟨.comma, _⟩ :: ts => (setMembers start ts).map fun (members, ts) => (member :: members, ts)
      | ⟨t, position⟩ :: _ => .error (.unexpected t.describe .setSeparator position)

/-- Read a set after its opening bracket. The empty set has no members. -/
def setLiteral (start : Nat) : Reading Literal
  | ⟨.rightBracket, _⟩ :: ts => .ok (.set [], ts)
  | ts => (setMembers start ts).map fun (members, ts) => (.set members, ts)

/-- Read a side of a comparison that starts with the token `t`. -/
def Reader.operand (r : Reader) (t : Located) : Reading Operand := fun ts =>
  match t.token with
  | .word name => (r.nameOperand name).map (·, ts)
  | .text s => .ok (.literal (.text s), ts)
  | .pattern source => (patternOf source).map fun l => (.literal l, ts)
  | .number n => .ok (.literal (.number n), ts)
  | .boolean b => .ok (.literal (.boolean b), ts)
  | .leftBracket => (setLiteral t.position ts).map fun (l, ts) => (.literal l, ts)
  | other => .error (.unexpected other.describe .fieldOrValue t.position)

/-- Read the operator of a comparison, and where it stands. -/
def comparator : Reading (Comparator × Nat)
  | ⟨.comparator op, position⟩ :: ts => .ok ((op, position), ts)
  | ⟨t, position⟩ :: _ => .error (.unexpected t.describe .comparator position)
  | [] => .error (.unexpectedEnd .comparator)

/-- Read a comparison whose first token is `t`. -/
def Reader.comparison (r : Reader) (t : Located) : Reading Node := fun ts => do
  let (left, ts) ← r.operand t ts
  let ((op, position), ts) ← comparator ts
  match ts with
  | [] => .error (.unexpectedEnd .value)
  | t :: ts =>
    let (right, ts) ← r.operand t ts
    let node ← comparisonOf left op right position
    pure (node, ts)

/-- The filter that a name alone stands for: a field that holds truth values, or a saved filter. -/
def Reader.bareName (r : Reader) (name : String) : Reading Node := fun ts =>
  match r.catalog name with
  | some .boolean =>
    .ok (.compare (.field ⟨name, .boolean⟩) .equal (.literal (.boolean true)), ts)
  | some _ =>
    match ts with
    | ⟨t, position⟩ :: _ => .error (.unexpected t.describe .comparator position)
    | [] => .error (.unexpectedEnd .comparator)
  | none => if r.isRule name then .ok (.aliasOf name, ts) else .error (.unknownField name)

/-- Whether the next token is the operator of a comparison. -/
def atComparator : List Located → Bool
  | ⟨.comparator _, _⟩ :: _ => true
  | _ => false

/-- Read a filter without connectives, negation and groups. -/
def Reader.leaf (r : Reader) : Reading Node
  | [] => .error (.unexpectedEnd .term)
  | t :: ts =>
    match t.token, atComparator ts with
    | .alias name, _ => .ok (.aliasOf name, ts)
    | .text s, false => .ok (.search s, ts)
    | .word name, false => r.bareName name ts
    | _, _ => r.comparison t ts

/-! ## Chains, negations and groups -/

/-- Read the further items of a chain, each after the connective; `fuel` bounds their number. -/
def chainRest (op : Connective) (item : Reading Node) : Nat → Reading (List Node)
  | 0, ts => .ok ([], ts)
  | fuel + 1, ts =>
    match ts with
    | ⟨.connective op', _⟩ :: rest =>
      if op' = op then do
        let (node, rest) ← item rest
        let (nodes, rest) ← chainRest op item fuel rest
        pure (node :: nodes, rest)
      else .ok ([], ts)
    | _ => .ok ([], ts)

/-- Read items joined by a connective. A single item stays as it is. -/
def chain (op : Connective) (item : Reading Node) : Reading Node := fun ts => do
  let (first, ts) ← item ts
  let (rest, ts) ← chainRest op item ts.length ts
  match rest with
  | [] => pure (first, ts)
  | rest => pure (.expression op false first rest, ts)

/-- Read conjunctions joined by `OR`. -/
def disjunction (unary : Reading Node) : Reading Node := chain .or (chain .and unary)

/-- Read the closing parenthesis of a group. -/
def closeGroup (node : Node) : Reading Node
  | ⟨.rightParen, _⟩ :: ts => .ok (node, ts)
  | ⟨t, position⟩ :: _ => .error (.unexpected t.describe .rightParen position)
  | [] => .error (.unexpectedEnd .rightParen)

/-- Where the next token starts; at the end, where the last one started. -/
def Scope.position (s : Scope) : List Located → Nat
  | t :: _ => t.position
  | [] => s.lastPosition

/-- Read a negation, a group or a leaf, with a number of levels left. -/
def Scope.unary (s : Scope) : Nat → Reading Node
  | 0, ts => .error (.tooDeep s.limit (s.position ts))
  | levels + 1, ts =>
    match ts with
    | ⟨.bang, _⟩ :: ts => (s.unary levels ts).map fun (node, ts) => (node.not, ts)
    | ⟨.leftParen, _⟩ :: ts => do
      let (node, ts) ← disjunction (s.unary levels) ts
      closeGroup node ts
    | ts => s.reader.leaf ts

/-- The filter of a whole list of tokens. -/
def Scope.readAll (s : Scope) (ts : List Located) : Except ReadError Node := do
  let (node, rest) ← disjunction (s.unary s.limit) ts
  match rest with
  | [] => pure node.asExpression
  | ⟨t, position⟩ :: _ => .error (.unexpected t.describe .connectiveOrEnd position)

/-- Read a filter from the whole of a text. -/
def Reader.read (r : Reader) (text : String) : Except ReadError Node := do
  let ts ← lex 0 text.toList
  match ts.getLast? with
  | none => .error .empty
  | some last => Scope.readAll ⟨r, max r.maxDepth 1, last.position⟩ ts

end LogQuery.Filter
