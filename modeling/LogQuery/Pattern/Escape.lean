import LogQuery.Pattern.Expr
import LogQuery.Pattern.Flags
import LogQuery.Text.Hex
import LogQuery.Unicode.Age
import LogQuery.Unicode.Break
import LogQuery.Unicode.Script

/-!
# Pattern.Escape — what a backslash starts in a pattern

* `escape?` reads what follows a backslash: characters, properties, classes and places.
* `propertyQuery?` finds the set of a property in braces.
-/

namespace LogQuery.Pattern

open Unicode (CodeSet)

/-- A part of a pattern that stands for one character or for a place. -/
inductive Atom where
  /-- A character; `byte` if it was written as a byte of two digits. -/
  | char (c : Char) (byte : Bool)
  | set (s : CodeSet)
  | anchor (a : Anchor)

/-- Read exactly `count` hexadecimal digits. -/
def hexFixed? (f : Flags) : Nat → Nat → List Char → Option (Nat × List Char)
  | 0, value, cs => some (value, cs)
  | _ + 1, _, [] => none
  | count + 1, value, c :: cs =>
    (Text.hexValue? c).bind fun d => hexFixed? f count (16 * value + d) (f.skip cs)

/-- Read hexadecimal digits up to a closing brace; at most `fuel` of them. -/
def hexBraced? (f : Flags) : Nat → Option Nat → List Char → Option (Nat × List Char)
  | 0, _, _ => none
  | fuel + 1, value?, cs =>
    match f.skip cs with
    | [] => none
    | '}' :: cs => value?.map fun value => (value, f.skip cs)
    | c :: cs =>
      (Text.hexValue? c).bind fun d => hexBraced? f fuel (some (16 * value?.getD 0 + d)) cs

/-- Read the digits of a code point after `\x`, `\u` or `\U`, which stand for 2, 4 or 8 digits. -/
def hexEscape? (f : Flags) (count : Nat) (cs : List Char) : Option (Atom × List Char) :=
  match f.skip cs with
  | [] => none
  | '{' :: cs => do
    let (value, rest) ← hexBraced? f (cs.length + 1) none cs
    let c ← Text.charOf? value
    pure (.char c false, rest)
  | cs => do
    let (value, rest) ← hexFixed? f count 0 cs
    let c ← Text.charOf? value
    pure (.char c (count == 2), rest)

/-- The name of a property in lower case, without blanks, hyphens, underscores and a leading
`is`. -/
def propertyName (cs : List Char) : String :=
  let tidy := fun cs : List Char =>
    (cs.filter fun c => c.toNat < 0x80 && c != ' ' && c != '_' && c != '-').map Char.toLower
  match cs with
  | i :: s :: rest =>
    if i.toLower = 'i' ∧ s.toLower = 's' then
      (if tidy rest = ['c'] then "isc" else String.ofList (tidy rest))
    else String.ofList (tidy cs)
  | cs => String.ofList (tidy cs)

/-- The set that a single name of a property stands for. -/
def namedSet? (name : String) : Option CodeSet :=
  let property? :=
    if name = "cf" ∨ name = "sc" ∨ name = "lc" then none else Unicode.propertySet? name
  property? <|> Unicode.categorySet? name <|> Unicode.scriptSet? name

/-- The set that a property with a value stands for. -/
def valuedSet? (name value : String) : Option CodeSet :=
  match name with
  | "gc" | "generalcategory" => Unicode.categorySet? value
  | "sc" | "script" => Unicode.scriptSet? value
  | "scx" | "scriptextensions" => Unicode.scriptExtensionsSet? value
  | "age" => Unicode.ageSet? value
  | "gcb" | "graphemeclusterbreak" => Unicode.graphemeBreakSet? value
  | "wb" | "wordbreak" => Unicode.wordBreakSet? value
  | "sb" | "sentencebreak" => Unicode.sentenceBreakSet? value
  | _ => none

/-- Cut characters at the first place where the separator stands. -/
def cutAt? (separator : List Char) : List Char → Option (List Char × List Char)
  | [] => none
  | c :: cs =>
    if separator.isPrefixOf (c :: cs) then some ([], (c :: cs).drop separator.length)
    else (cutAt? separator cs).map fun (before, after) => (c :: before, after)

/-- The set of a property in braces. A value may follow its property in three ways, which mean the
same. -/
def propertyQuery? (cs : List Char) : Option CodeSet :=
  match cutAt? ['!', '='] cs <|> cutAt? [':'] cs <|> cutAt? ['='] cs with
  | some (name, value) => valuedSet? (propertyName name) (propertyName value)
  | none => namedSet? (propertyName cs)

/-- Read the characters up to a closing brace; at most `fuel` of them. -/
def braced? (f : Flags) : Nat → List Char → Option (List Char × List Char)
  | 0, _ => none
  | fuel + 1, cs =>
    match f.skip cs with
    | [] => none
    | '}' :: cs => some ([], cs)
    | c :: cs => (braced? f fuel cs).map fun (name, rest) => (c :: name, rest)

/-- Read a property after `\p` or `\P`. -/
def propertyEscape? (f : Flags) (negated : Bool) (cs : List Char) : Option (Atom × List Char) := do
  guard f.unicode
  match f.skip cs with
  | [] => none
  | '{' :: cs =>
    let (name, rest) ← braced? f (cs.length + 1) cs
    let set ← propertyQuery? name
    pure (.set (← f.foldNegate? negated set), rest)
  | c :: cs =>
    guard (c ≠ '\\')
    let set ← namedSet? (propertyName [c])
    pure (.set (← f.foldNegate? negated set), f.skip cs)

/-- The class of digits, blanks or word characters with a given letter. -/
def classSet (f : Flags) (letter : Char) : CodeSet :=
  if letter = 'd' then (if f.unicode then Unicode.digitSet else ⟨[(0x30, 0x39)]⟩)
  else if letter = 's' then (if f.unicode then Unicode.blankSet else ⟨[(0x09, 0x0d), (0x20, 0x20)]⟩)
  else (if f.unicode then Unicode.wordSet else asciiWordSet)

/-- The class with a given letter, negated if the letter is a capital. Classes hold both cases of
their letters. -/
def classEscape? (f : Flags) (letter : Char) : Option CodeSet :=
  let set := classSet f letter.toLower
  if letter.isLower then some set else if f.unicode then some (negate set) else none

/-- Read the name of a kind of word edge after `\b`, which must end in a brace. A brace that starts
no name belongs to a count and is left. -/
def wordEdgeName? (f : Flags) (cs : List Char) : Option (Anchor × List Char) :=
  let plain := Anchor.wordEdge !f.unicode
  match cs with
  | '{' :: rest =>
    match f.skip rest with
    | [] => none
    | c :: rest =>
      if c.isAlpha || c == '-' then do
        let (name, rest) ← braced? f (rest.length + 2) (c :: rest)
        match String.ofList name with
        | "start" => some (.wordStart !f.unicode, rest)
        | "end" => some (.wordEnd !f.unicode, rest)
        | "start-half" => some (.wordStartHalf !f.unicode, rest)
        | "end-half" => some (.wordEndHalf !f.unicode, rest)
        | _ => none
      else some (plain, cs)
  | cs => some (plain, cs)

/-- Read what follows a backslash. Punctuation of ASCII stands for itself. -/
def escape? (f : Flags) : List Char → Option (Atom × List Char)
  | [] => none
  | c :: cs =>
    match c with
    | 'x' => hexEscape? f 2 cs
    | 'u' => hexEscape? f 4 cs
    | 'U' => hexEscape? f 8 cs
    | 'p' => propertyEscape? f false cs
    | 'P' => propertyEscape? f true cs
    | 'd' | 's' | 'w' | 'D' | 'S' | 'W' => (classEscape? f c).map fun s => (.set s, cs)
    | 'a' => some (.char '\x07' false, cs)
    | 'f' => some (.char '\x0c' false, cs)
    | 't' => some (.char '\t' false, cs)
    | 'n' => some (.char '\n' false, cs)
    | 'r' => some (.char '\r' false, cs)
    | 'v' => some (.char '\x0b' false, cs)
    | 'A' => some (.anchor .textStart, cs)
    | 'z' => some (.anchor .textEnd, cs)
    | 'b' => (wordEdgeName? f cs).map fun (a, rest) => (.anchor a, rest)
    | 'B' => some (.anchor (.noWordEdge !f.unicode), cs)
    | '<' => some (.anchor (.wordStart !f.unicode), cs)
    | '>' => some (.anchor (.wordEnd !f.unicode), cs)
    | c => if c.toNat < 0x80 && !c.isAlphanum then some (.char c false, cs) else none

end LogQuery.Pattern
