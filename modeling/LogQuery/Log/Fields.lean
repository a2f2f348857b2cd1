import LogQuery.Filter.Field
import LogQuery.Log.Entry

/-!
# Log.Fields — the fields of log entries

Every entry has the fixed fields; a name that starts with `payload.` reads a part of the payload.

* `catalog` declares the fields, `resolver` reads them; both take the names of the text fields that
  are compared without regard to case.
-/

namespace LogQuery.Log

open LogQuery.Filter

/-- The fixed fields with their types. -/
def fixedFields : List (String × FieldType) := [
  ("component", .text),
  ("component_id", .text),
  ("timestamp", .date),
  ("level", .text),
  ("message", .text),
  ("line", .number),
  ("has_payload", .boolean)]

/-- The type of a fixed field, given the fields that are compared without regard to case. -/
def declare (ignoringCase : List String) (name : String) (type : FieldType) : FieldType :=
  if type = .text ∧ name ∈ ignoringCase then .textIgnoreCase else type

/-- The fixed fields with their declared types. -/
def declaredFields (ignoringCase : List String) : List (String × FieldType) :=
  fixedFields.map fun (name, type) => (name, declare ignoringCase name type)

/-- The path of a name that reads a part of the payload. -/
def payloadPath? (name : String) : Option String :=
  let start := "payload.".toList
  if start.isPrefixOf name.toList then some (String.ofList (name.toList.drop start.length))
  else none

/-- The declared types of the fields of entries. -/
def catalog (ignoringCase : List String) : Catalog := fun name =>
  match (declaredFields ignoringCase).lookup name with
  | some type => some type
  | none =>
    match payloadPath? name with
    | some path => if path = "" then none else some .dynamic
    | none => none

/-- A part of a payload as the value of a field. Lists and objects are given by their text. -/
def fieldValue? : Json → Option FieldValue
  | .null => none
  | .boolean b => some (.boolean b)
  | .integer i => some (.number (.ofInt i))
  | .real negative m => some (.number (.finite negative m))
  | .text s => some (.text s)
  | j => some (.text j.compact)

/-- The value of a fixed field. -/
def fixedValue? (e : Entry) (name : String) : Option FieldValue :=
  match name with
  | "component" => some (.text e.component)
  | "component_id" => some (.text e.componentId)
  | "timestamp" => some (.date e.timestamp)
  | "level" => some (.text e.level)
  | "message" => some (.text e.message)
  | "line" => some (.number (.ofInt e.line))
  | "has_payload" => some (.boolean e.hasPayload)
  | _ => none

/-- Read a field of an entry. -/
def resolve (ignoringCase : List String) (e : Entry) (name : String) : Option ResolvedField :=
  match fixedValue? e name with
  | some value => (catalog ignoringCase name).map fun type => ⟨value, type⟩
  | none => do
    let path ← payloadPath? name
    let value ← (e.payloadPart? path).bind fieldValue?
    pure ⟨value, value.naturalType⟩

/-- How the fields of entries are read. -/
def resolver (ignoringCase : List String) : Resolver Entry := ⟨resolve ignoringCase, Entry.raw⟩

end LogQuery.Log
