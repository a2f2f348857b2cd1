import LogQuery.Filter.Error
import LogQuery.Text.Substring

/-!
# Filter.Compare — the meaning of the comparison operators

The declared type of the field decides how values are compared. Patterns and sets apply to the text
of a field of any type; everything else has to fit the declared type.

* `compare` compares two sides of which at least one is a field.
* `compareField` compares a field with a value; swapped sides use the mirrored operator.
-/

namespace LogQuery.Filter

/-- A side of a comparison after fields and saved filters have been looked up. -/
inductive Side where
  | field (name : String) (field : ResolvedField)
  | literal (l : Literal)

/-- A field value as a constant. -/
def FieldValue.toLiteral : FieldValue → Literal
  | .text s => .text s
  | .number n => .number n
  | .boolean b => .boolean b
  | .date d => .date d

/-- A constant as it is named when it does not fit. -/
def Literal.kind : Literal → String
  | .text s => "text \"" ++ s ++ "\""
  | .number n => "number " ++ n.plain
  | .boolean b => "boolean " ++ booleanText b
  | .date _ => "date"
  | .pattern p => "pattern /" ++ p.source ++ "/"
  | .set _ => "set"

/-- The result of a comparison. -/
abbrev Verdict := Except EvalError Bool

/-- The values cannot be compared. -/
def mismatch {α : Type} (reason : String) : Except EvalError α := .error (.typeMismatch reason)

/-- The field cannot be compared with a constant of another type. -/
def incompatible {α : Type} (name : String) (declared : FieldType) (other : Literal) :
    Except EvalError α :=
  mismatch ("cannot compare " ++ declared.name ++ " field '" ++ name ++ "' with " ++ other.kind)

/-- The operator is not defined for the field and what it is compared with. -/
def unsupported {α : Type} (op : Comparator) (name : String) (declared : FieldType)
    (against : String) : Except EvalError α :=
  mismatch ("operator " ++ op.label ++ " cannot compare " ++ declared.name ++ " field '" ++ name ++
    "' with " ++ against)

/-- The field holds a value of another type than the declared one. -/
def wrongValue {α : Type} (name : String) (declared : FieldType) (value : FieldValue) :
    Except EvalError α :=
  mismatch ("field '" ++ name ++ "' is declared as " ++ declared.name ++ " but holds a " ++
    value.typeName)

/-! ## Text -/

/-- Equality of texts; the declared type decides whether case counts. -/
def textEq (declared : FieldType) (left right : String) : Bool :=
  if declared = .textIgnoreCase then Text.lower left == Text.lower right else left == right

/-- Whether a text has another one as a part; the declared type decides whether case counts. -/
def textContains (declared : FieldType) (whole part : String) : Bool :=
  if declared = .textIgnoreCase then Text.contains (Text.lower whole) (Text.lower part)
  else Text.contains whole part

/-- Compare the text of a field with a constant. -/
def compareText (op : Comparator) (name : String) (declared : FieldType) (text : String)
    (other : Literal) : Verdict :=
  match other with
  | .text right =>
    match op with
    | .equal => .ok (textEq declared text right)
    | .notEqual => .ok (!textEq declared text right)
    | .contains => .ok (textContains declared text right)
    | .isIn => .ok (textContains declared right text)
    | .matches =>
      mismatch ("MATCHES on '" ++ name ++ "' needs a pattern, got text \"" ++ right ++ "\"")
    | op => unsupported op name declared "text"
  | other => incompatible name declared other

/-! ## Values with an order -/

/-- Apply an operator to values in the given order. -/
def applyOrdering (op : Comparator) (name : String) (declared : FieldType) (order : Ordering) :
    Verdict :=
  match op with
  | .equal => .ok (order == .eq)
  | .notEqual => .ok (order != .eq)
  | .greater => .ok (order == .gt)
  | .less => .ok (order == .lt)
  | .greaterEqual => .ok (order != .lt)
  | .lessEqual => .ok (order != .gt)
  | op => unsupported op name declared "a single value"

/-- The date that a field holds; a text is read as one. -/
def dateOf (name : String) : FieldValue → Except EvalError Instant
  | .date d => .ok d
  | .text s =>
    match Instant.ofText? s with
    | some d => .ok d
    | none => mismatch ("value of '" ++ name ++ "' is not a date: \"" ++ s ++ "\"")
  | value => wrongValue name .date value

/-- The date that a constant stands for; a text is read as one. -/
def literalDate (name : String) : Literal → Except EvalError Instant
  | .date d => .ok d
  | .text s =>
    match Instant.ofText? s with
    | some d => .ok d
    | none => mismatch ("\"" ++ s ++ "\" is not a date in the canonical format " ++ dateFormat)
  | other => incompatible name .date other

/-- Compare a field that holds dates with a constant. -/
def compareDate (op : Comparator) (name : String) (value : FieldValue) (other : Literal) :
    Verdict := do
  let left ← dateOf name value
  let right ← literalDate name other
  applyOrdering op name .date (left.compare right)

/-- The number that a field holds; a text is read as one. -/
def numberOf (name : String) : FieldValue → Except EvalError Number
  | .number n => .ok n
  | .text s =>
    match Number.ofText? (Text.trim s) with
    | some n => .ok n
    | none => mismatch ("value of '" ++ name ++ "' is not a number: \"" ++ s ++ "\"")
  | value => wrongValue name .number value

/-- Compare a field that holds numbers with a constant. A NaN differs from every number. -/
def compareNumber (op : Comparator) (name : String) (value : FieldValue) (other : Literal) :
    Verdict := do
  let left ← numberOf name value
  match other with
  | .number right =>
    match left.compare? right with
    | some order => applyOrdering op name .number order
    | none =>
      if op = .notEqual then pure true
      else if op.isOrdering ∨ op = .equal then pure false
      else unsupported op name .number "a number"
  | other => incompatible name .number other

/-- Compare a field that holds truth values with a constant. -/
def compareBoolean (op : Comparator) (name : String) (value : FieldValue) (other : Literal) :
    Verdict :=
  match value with
  | .boolean left =>
    match other with
    | .boolean right =>
      match op with
      | .equal => .ok (left == right)
      | .notEqual => .ok (left != right)
      | op => unsupported op name .boolean "a boolean"
    | other => incompatible name .boolean other
  | value => wrongValue name .boolean value

/-! ## Patterns, sets and fields -/

/-- Search a text for a pattern, or match the whole text with it. -/
def comparePattern (op : Comparator) (text : String) (p : Pattern) : Verdict :=
  let found? : Except EvalError (Option Bool) :=
    match op with
    | .matches => .ok (p.fullMatch text)
    | .equal => .ok (p.find text)
    | .notEqual => .ok ((p.find text).map (!·))
    | op => mismatch ("operator " ++ op.label ++ " cannot be used with a pattern")
  found?.bind fun
    | some found => .ok found
    | none => mismatch ("malformed pattern literal /" ++ p.source ++ "/")

/-- Whether the text of a field is a member of a set. -/
def compareSet (op : Comparator) (name : String) (declared : FieldType) (text : String)
    (values : List String) : Verdict :=
  match op with
  | .contains | .isIn => .ok (values.any fun v => textEq declared text v)
  | op => unsupported op name declared "a set"

/-- The type that a field is compared as: a dynamic one takes that of its value. -/
def effectiveType (field : ResolvedField) : FieldType :=
  if field.declared = .dynamic then field.value.naturalType else field.declared

/-- The constant that a field is compared with. Beside a dynamic field that holds no date, a date
stands for its canonical text. -/
def effectiveLiteral (field : ResolvedField) (other : Literal) : Literal :=
  match other with
  | .date d =>
    if field.declared = .dynamic ∧ field.value.naturalType ≠ .date then .text d.canonical else other
  | other => other

/-- Compare a field with a constant. -/
def compareField (op : Comparator) (name : String) (field : ResolvedField) (other : Literal) :
    Verdict :=
  let declared := effectiveType field
  match effectiveLiteral field other with
  | .pattern p => comparePattern op field.value.render p
  | .set values => compareSet op name declared field.value.render values
  | other =>
    match declared with
    | .date => compareDate op name field.value other
    | .number => compareNumber op name field.value other
    | .boolean => compareBoolean op name field.value other
    | .text | .textIgnoreCase | .dynamic => compareText op name declared field.value.render other

/-- Compare two sides. A constant on the left is compared as if the sides were swapped. -/
def compare (op : Comparator) (left right : Side) : Verdict :=
  match left, right with
  | .field name field, .literal l => compareField op name field l
  | .field name field, .field _ other => compareField op name field other.value.toLiteral
  | .literal l, .field name field => compareField op.mirrored name field l
  | .literal _, .literal _ => mismatch "a comparison needs a field on at least one side"

end LogQuery.Filter
