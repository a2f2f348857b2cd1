import LogQuery.Filter.Tree

/-!
# Filter.Printer — the canonical text of a filter

The text reads back as the filter. Grouping follows the tree: a plain expression inside another one
stands in parentheses, and a negated expression brings its own.

* `Node.chars` writes a filter, `quoted` and `slashed` write texts and patterns.
-/

namespace LogQuery.Filter

/-- A digit of a hexadecimal number. -/
def hexChar (n : Nat) : Char := Nat.digitChar (n % 16)

/-- A character inside quotes. -/
def quotedChar (c : Char) : List Char :=
  if c = '"' then ['\\', '"']
  else if c = '\\' then ['\\', '\\']
  else if c = '\n' then ['\\', 'n']
  else if c = '\r' then ['\\', 'r']
  else if c = '\t' then ['\\', 't']
  else if Text.isControl c then
    let n := c.toNat
    ['\\', 'u', hexChar (n / 4096), hexChar (n / 256), hexChar (n / 16), hexChar n]
  else [c]

/-- A text in quotes, with quotes, backslashes and control characters escaped. -/
def quoted (s : String) : List Char := '"' :: s.toList.flatMap quotedChar ++ ['"']

/-- The inside of a pattern between slashes: a bare slash is escaped, an escape stays as it is. -/
def slashedBody : List Char → List Char
  | [] => []
  | '\\' :: c :: cs => '\\' :: c :: slashedBody cs
  | c :: cs => if c = '/' then '\\' :: '/' :: slashedBody cs else c :: slashedBody cs

/-- A pattern between slashes. -/
def slashed (source : String) : List Char := '/' :: slashedBody source.toList ++ ['/']

/-- A number. An infinity is written as a number out of range, which is read as the infinity. -/
def numberText : Number → List Char
  | .infinite false => "1e999".toList
  | .infinite true => "-1e999".toList
  | n => n.canonical.toList

/-- Texts with a comma and a blank between them. -/
def members : List String → List Char
  | [] => []
  | [s] => quoted s
  | s :: rest => quoted s ++ ',' :: ' ' :: members rest

/-- A constant beside an operator. A pattern to match with is written as a text. -/
def Literal.chars (op : Comparator) : Literal → List Char
  | .text s => quoted s
  | .pattern p => if op = .matches then quoted p.source else slashed p.source
  | .date d => quoted d.canonical
  | .number n => numberText n
  | .boolean b => (booleanText b).toList
  | .set values => '[' :: members values ++ [']']

/-- A side of a comparison. -/
def Operand.chars (op : Comparator) : Operand → List Char
  | .field f => f.name.toList
  | .rule name => name.toList
  | .literal l => l.chars op

/-- A comparison. -/
def Comparison.chars (c : Comparison) : List Char :=
  c.left.chars c.op ++ ' ' :: c.op.label.toList ++ ' ' :: c.right.chars c.op

/-- Put a text in parentheses if asked. -/
def grouped (inside : Bool) (cs : List Char) : List Char :=
  if inside then '(' :: cs ++ [')'] else cs

mutual

/-- The canonical characters of a filter. -/
def Node.chars : Node → List Char
  | .expression op negated first rest =>
    let body := grouped first.isPlain first.chars ++ restChars op rest
    if negated then '!' :: '(' :: body ++ [')'] else body
  | .comparison c => c.chars
  | .search term => quoted term
  | .alias name => '#' :: (sanitize name).toList

/-- The further parts of an expression, each after the connective. -/
def restChars (op : Connective) : List Node → List Char
  | [] => []
  | node :: nodes =>
    ' ' :: op.label.toList ++ ' ' :: grouped node.isPlain node.chars ++ restChars op nodes

end

/-- The canonical text of a filter. -/
def Node.canonical (n : Node) : String := String.ofList n.chars

@[simp] theorem Node.toList_canonical (n : Node) : n.canonical.toList = n.chars := by
  simp [Node.canonical]

/-- The canonical text of the body of a saved filter. -/
def Rule.filterText (r : Rule) : String := r.root.canonical

end LogQuery.Filter
