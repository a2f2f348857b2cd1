import LogQuery.Instant.Rfc3339
import LogQuery.Number.Text

/-!
# Filter.Field — the types and values of the fields of a record

A record is seen through a `Resolver`, which reads a field by name and gives the text of the whole
record. A `Catalog` declares the fields that a filter may name.
-/

namespace LogQuery.Filter

/-- The declared type of a field. -/
inductive FieldType where
  /-- Text that is compared as it is. -/
  | text
  /-- Text that is compared without regard to case. -/
  | textIgnoreCase
  | number
  | boolean
  | date
  /-- The type is that of the value that a record holds. -/
  | dynamic
  deriving DecidableEq, Repr

namespace FieldType

/-- Whether the field holds text. -/
def isText : FieldType → Bool
  | .text | .textIgnoreCase => true
  | _ => false

/-- Whether values of the field may have an order. -/
def isOrdered : FieldType → Bool
  | .number | .date | .dynamic => true
  | _ => false

/-- The type as it is named in messages. -/
def name : FieldType → String
  | .text => "text"
  | .textIgnoreCase => "text (case-insensitive)"
  | .number => "number"
  | .boolean => "boolean"
  | .date => "date"
  | .dynamic => "dynamic"

end FieldType

/-- A value of a field. -/
inductive FieldValue where
  | text (s : String)
  | number (n : Number)
  | boolean (b : Bool)
  | date (d : Instant)
  deriving DecidableEq

/-- The text of a truth value. -/
def booleanText (b : Bool) : String := if b then "true" else "false"

namespace FieldValue

/-- The text of a value, for patterns, parts and members. -/
def render : FieldValue → String
  | .text s => s
  | .number n => n.canonical
  | .boolean b => booleanText b
  | .date d => d.canonical

/-- The declared type that fits the value. -/
def naturalType : FieldValue → FieldType
  | .text _ => .text
  | .number _ => .number
  | .boolean _ => .boolean
  | .date _ => .date

/-- The type of the value as it is named in messages. -/
def typeName (v : FieldValue) : String := v.naturalType.name

end FieldValue

/-- A value together with the declared type of its field. -/
structure ResolvedField where
  value : FieldValue
  declared : FieldType
  deriving DecidableEq

/-- How the fields of a record are read. -/
structure Resolver (ρ : Type) where
  /-- The field with a name, if the record has it. -/
  resolve : ρ → String → Option ResolvedField
  /-- The text of the whole record. -/
  fullText : ρ → String

/-- The declared types of the fields that a filter may name. -/
abbrev Catalog := String → Option FieldType

end LogQuery.Filter
