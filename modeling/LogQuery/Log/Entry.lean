import LogQuery.Instant.Relaxed
import LogQuery.Log.Payload

/-!
# Log.Entry — the entries of a log

An entry is written as `component (id) | timestamp [level] message`, where the id may be missing. A
message may hold a structured payload.

* `Entry.ofText?` reads an entry, or says why a text is none.
* `Entry.toJson` lists all that is known of an entry.
-/

namespace LogQuery.Log

/-- An entry of a log. -/
structure Entry where
  component : String
  /-- The id of the component, empty if there is none. -/
  componentId : String
  timestamp : Instant
  level : String
  message : String
  /-- The text that the entry was read from. -/
  raw : String
  payload : Option Json
  /-- The number of the first line of the entry in its log. -/
  line : Nat

/-- Why a text is no entry. -/
inductive EntryError where
  | missingMessage
  | missingLevel
  | invalidTimestamp (text : String)
  deriving DecidableEq, Repr

/-- The wording of an error. Why a timestamp is invalid is not spelled out. -/
def EntryError.message : EntryError → String
  | .missingMessage => "Invalid log format: Missing log message section"
  | .missingLevel => "Invalid log format: Invalid log format"
  | .invalidTimestamp text => "Invalid log format: Invalid timestamp '" ++ text ++ "'"

/-- What stands between the component and the rest of an entry. -/
def separator : List Char := [' ', '|', ' ']

/-- The inside of a text in parentheses, if there is any. -/
def parenthesized? : List Char → Option (List Char)
  | '(' :: cs =>
    match cs.getLast? with
    | some ')' => if cs.dropLast.isEmpty then none else some cs.dropLast
    | _ => none
  | _ => none

/-- The component and its id. -/
def componentParts (cs : List Char) : List Char × List Char :=
  let parts? := do
    let (component, rest) ← Text.cutAt? [' '] cs
    let id ← parenthesized? rest
    pure (component, id)
  parts?.getD (cs, [])

/-- The timestamp, the level and the message, as they stand after the separator. -/
def messageParts? (cs : List Char) : Option (List Char × List Char × List Char) := do
  let (timestamp, rest) ← Text.cutAt? ['['] cs
  let (level, rest) ← Text.cutAt? [']'] rest
  let message := match rest with
    | ' ' :: rest => rest
    | rest => rest
  pure (Text.trimChars timestamp, Text.trimChars level, message)

namespace Entry

/-- Read an entry that starts in a line of its log. -/
def ofText? (line : Nat) (text : String) : Except EntryError Entry :=
  match Text.cutAt? separator text.toList with
  | none => .error .missingMessage
  | some (front, rest) =>
    match messageParts? rest with
    | none => .error .missingLevel
    | some (timestamp, level, message) =>
      match Instant.ofLooseChars? timestamp with
      | none => .error (.invalidTimestamp (String.ofList timestamp))
      | some time =>
        let (component, id) := componentParts front
        .ok {
          component := String.ofList component
          componentId := String.ofList id
          timestamp := time
          level := String.ofList level
          message := String.ofList message
          raw := text
          payload := payloadOf? message
          line := line }

/-- Whether the message holds a payload. -/
def hasPayload (e : Entry) : Bool := e.payload.isSome

/-- The part of the payload at the end of a path with points between its steps. -/
def payloadPart? (e : Entry) (path : String) : Option Json :=
  e.payload.bind fun payload => payload.at? (Text.splitAt '.' path)

/-- All that is known of an entry. -/
def toJson (e : Entry) : Json :=
  .object [
    ("component", .text e.component),
    ("component_id", .text e.componentId),
    ("timestamp", .text e.timestamp.canonical),
    ("level", .text e.level),
    ("message", .text e.message),
    ("raw_logline", .text e.raw),
    ("payload", e.payload.getD .null),
    ("source_line_number", .nat e.line)]

end Entry

end LogQuery.Log
