import LogQuery.Filter.Tree

/-!
# Filter.Error — what goes wrong when filters are read, evaluated and saved

Every cause is a constructor, and its wording stands in one function. Positions are byte offsets
into the text of the filter.
-/

namespace LogQuery.Filter

/-- The default limit on the nesting of filters, in reading and in evaluation. -/
def defaultDepth : Nat := 64

/-- The words for the canonical form of dates. -/
def dateFormat : String := "RFC 3339 (e.g. 2024-01-01T00:00:00Z)"

/-- What the reader of a filter expects at a place. -/
inductive Expectation where
  | aliasName
  | term
  | connectiveOrEnd
  | rightParen
  | value
  | comparator
  | fieldOrValue
  | setMember
  | setSeparator
  | fieldOnOneSide
  deriving DecidableEq, Repr

/-- The words for what is expected. -/
def Expectation.text : Expectation → String
  | .aliasName => "a filter name after '#'"
  | .term => "a filter term"
  | .connectiveOrEnd => "AND, OR or the end of the filter"
  | .rightParen => "')'"
  | .value => "a value after the operator"
  | .comparator => "a comparison operator"
  | .fieldOrValue => "a field or a value"
  | .setMember => "a string or number inside the set"
  | .setSeparator => "',' or ']'"
  | .fieldOnOneSide => "a field or filter name on one side of the comparison"

/-- What can lack its end. -/
inductive Unclosed where
  | text
  | escape
  | pattern
  | set
  deriving DecidableEq, Repr

/-- The words for what lacks its end. -/
def Unclosed.words : Unclosed → String
  | .text => "string"
  | .escape => "escape sequence"
  | .pattern => "regular expression"
  | .set => "set"

/-- Why a text is no filter. -/
inductive ReadError where
  | empty
  | unexpected (found : String) (expected : Expectation) (position : Nat)
  | unexpectedEnd (expected : Expectation)
  | unterminated (kind : Unclosed) (position : Nat)
  | invalidEscape (sequence : String) (position : Nat)
  | unknownOperator (text : String)
  | unknownField (name : String)
  | invalidNumber (text : String)
  | invalidPattern (source : String)
  | incompatibleOperator (op : Comparator) (field : String) (type : FieldType)
  | invalidValue (field : String) (reason : String)
  | tooDeep (limit : Nat) (position : Nat)
  deriving DecidableEq, Repr

/-- The wording of an error. Why a pattern is not well formed is not spelled out. -/
def ReadError.message : ReadError → String
  | .empty => "Empty filter expression"
  | .unexpected found expected position =>
    "Unexpected " ++ found ++ " at position " ++ toString position ++ ", expected " ++ expected.text
  | .unexpectedEnd expected => "Unexpected end of filter, expected " ++ expected.text
  | .unterminated kind position =>
    "Unterminated " ++ kind.words ++ " starting at position " ++ toString position
  | .invalidEscape sequence position =>
    "Invalid escape sequence '\\" ++ sequence ++ "' at position " ++ toString position
  | .unknownOperator text => "Unknown operator: '" ++ text ++ "'"
  | .unknownField name => "Unknown field or filter: '" ++ name ++ "'"
  | .invalidNumber text => "Invalid number literal: '" ++ text ++ "'"
  | .invalidPattern source => "Invalid regular expression /" ++ source ++ "/: <regex>"
  | .incompatibleOperator op field type =>
    "Operator " ++ op.label ++ " cannot be used with field '" ++ field ++ "' of type " ++ type.name
  | .invalidValue field reason =>
    "Invalid right hand value for comparison with '" ++ field ++ "': " ++ reason
  | .tooDeep limit position =>
    "Filter nesting exceeds the maximum depth of " ++ toString limit ++ " at position " ++
      toString position

/-- What is recorded while a filter is evaluated on a record, or its references are followed. The
part of the filter that records an error counts as false. -/
inductive EvalError where
  | fieldNotFound (name : String)
  | typeMismatch (reason : String)
  | aliasNotFound (name : String)
  /-- The names followed from the start, the last one for the second time. -/
  | cyclicAlias (trace : List String)
  | depthExceeded (limit : Nat)
  deriving DecidableEq, Repr

/-- The wording of an error. -/
def EvalError.message : EvalError → String
  | .fieldNotFound name => "Field '" ++ name ++ "' is not present on the record"
  | .typeMismatch reason => "Type mismatch: " ++ reason
  | .aliasNotFound name => "Could not find a filter in the library for alias: " ++ name
  | .cyclicAlias trace =>
    "Recursion detected in filter. Alias trace: " ++ String.intercalate " -> " trace
  | .depthExceeded limit => "Filter nesting exceeds the maximum depth of " ++ toString limit

/-- Why a library of saved filters refuses a change. -/
inductive LibraryError where
  | emptyName
  | duplicate (name : String)
  | missing (name : String)
  | invalidDependencies (name : String) (errors : List EvalError)
  deriving DecidableEq, Repr

/-- The wording of an error. -/
def LibraryError.message : LibraryError → String
  | .emptyName => "Filter name must not be empty"
  | .duplicate name => "A filter named '" ++ name ++ "' already exists in the library"
  | .missing name => "No filter named '" ++ name ++ "' exists in the library"
  | .invalidDependencies name errors =>
    "Filter '" ++ name ++ "' is invalid: " ++
      String.intercalate "; " (errors.map EvalError.message)

end LogQuery.Filter
