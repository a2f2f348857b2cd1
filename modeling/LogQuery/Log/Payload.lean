import LogQuery.Json.Relaxed
import LogQuery.Text.Substring

/-!
# Log.Payload — the structured value inside a message

A payload starts at a brace or a bracket and ends where all braces and brackets opened since then
are closed, those in quoted texts not counted. The first such piece of a message that can be read is
the payload of the message.

* `balanced?` cuts out the piece that starts at the front.
* `payload?` finds the payload of a message.
-/

namespace LogQuery.Log

/-- The characters in front up to the place where all is closed. It starts inside of `braces` braces
and `brackets` brackets, and inside of a quoted text if there is a `quote`. -/
def balanced? (braces brackets : Nat) (quote : Option Char) : List Char → Option (List Char)
  | [] => none
  | c :: cs =>
    match quote with
    | some q =>
      if c = '\\' then
        match cs with
        | [] => none
        | d :: cs => (balanced? braces brackets quote cs).map fun piece => c :: d :: piece
      else
        (balanced? braces brackets (if c = q then none else quote) cs).map (c :: ·)
    | none =>
      if c = '"' ∨ c = '\'' then (balanced? braces brackets (some c) cs).map (c :: ·)
      else if c = '{' then (balanced? (braces + 1) brackets none cs).map (c :: ·)
      else if c = '[' then (balanced? braces (brackets + 1) none cs).map (c :: ·)
      else if c = '}' then
        if braces = 0 then none
        else if braces = 1 ∧ brackets = 0 then some [c]
        else (balanced? (braces - 1) brackets none cs).map (c :: ·)
      else if c = ']' then
        if brackets = 0 then none
        else if braces = 0 ∧ brackets = 1 then some [c]
        else (balanced? braces (brackets - 1) none cs).map (c :: ·)
      else (balanced? braces brackets none cs).map (c :: ·)

/-- The value of the piece at the front. The word `undefined` stands for no value. -/
def payloadAt? (cs : List Char) : Option Json := do
  let piece ← balanced? 0 0 none cs
  Json.ofRelaxedChars? (Text.replaceFrom "undefined".toList "null".toList 0 piece)

/-- The payload of a message: the first piece of it that can be read. -/
def payloadOf? : List Char → Option Json
  | [] => none
  | c :: cs =>
    if c = '{' ∨ c = '[' then payloadAt? (c :: cs) <|> payloadOf? cs else payloadOf? cs

/-- The payload of a message. -/
def payload? (message : String) : Option Json := payloadOf? message.toList

end LogQuery.Log
