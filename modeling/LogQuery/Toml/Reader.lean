import LogQuery.Text.Items
import LogQuery.Toml.Scalar

/-!
# Toml.Reader — from the text of a configuration to its table

* `Toml.ofText?` reads a whole document.
* `value?` reads a value whose lists and tables are nested up to a number of levels.
-/

namespace LogQuery.Toml

/-- The limit on the nesting of values and on the length of paths, which is not reached itself. -/
def depthLimit : Nat := 80

/-! ## Keys -/

/-- The characters of bare keys. -/
def isKeyChar (c : Char) : Bool := c.isAlphanum || c == '_' || c == '-'

/-- Read a key: a text of one line, or a bare key. -/
def key? : List Char → Option (String × List Char)
  | '"' :: cs => (basicText? cs).map fun (s, rest) => (String.ofList s, rest)
  | '\'' :: cs => (literalText? cs).map fun (s, rest) => (String.ofList s, rest)
  | cs =>
    let key := cs.takeWhile isKeyChar
    if key.isEmpty then none else some (String.ofList key, cs.dropWhile isKeyChar)

/-- Read keys with points between them; `fuel` bounds their number. White space may stand around
each of them. -/
def keys? : Nat → List Char → Option (List String × List Char)
  | 0, _ => none
  | fuel + 1, cs => do
    let (key, cs) ← key? (skipBlank cs)
    match skipBlank cs with
    | '.' :: cs =>
      let (keys, cs) ← keys? fuel cs
      pure (key :: keys, cs)
    | cs => pure ([key], cs)

/-- Read a path of keys. -/
def path? (cs : List Char) : Option (List String × List Char) := keys? (depthLimit - 1) cs

/-! ## Values -/

/-- Skip white space, line ends and comments; `inComment` tells where the characters start. -/
def skipLines (inComment : Bool) : List Char → List Char
  | [] => []
  | '\r' :: '\n' :: cs => skipLines false cs
  | '\n' :: cs => skipLines false cs
  | c :: cs =>
    if inComment then (if isPlain c then skipLines true cs else c :: cs)
    else if isBlank c then skipLines false cs
    else if c = '#' then skipLines true cs
    else c :: cs

/-- Read a path of keys, an equals sign and a value. -/
def pair? (value : List Char → Option (Toml × List Char)) (cs : List Char) :
    Option (Pair × List Char) := do
  let (path, cs) ← path? cs
  let key ← path.getLast?
  match cs with
  | '=' :: cs =>
    let (v, cs) ← value (skipBlank cs)
    pure (⟨path.dropLast, key, v⟩, cs)
  | _ => none

/-- Read a value, with a number of levels for lists and tables in braces. -/
def value? : Nat → List Char → Option (Toml × List Char)
  | 0, cs => scalar? cs
  | levels + 1, cs =>
    match cs with
    | '[' :: cs => do
      let item := value? levels
      let (items, rest) ← Text.itemsAt? (skipLines false) ']' true item true (cs.length + 1) cs
      pure (.array false items, rest)
    | '{' :: cs => do
      let item := pair? (value? levels)
      let (pairs, rest) ← Text.itemsAt? skipBlank '}' false item true (cs.length + 1) cs
      let entries ← fill? pairs []
      pure (.table .braces entries, rest)
    | cs => scalar? cs

/-! ## Documents -/

/-- Read white space and a comment up to the end of the line or of the text. -/
def lineEnd? (cs : List Char) : Option (List Char) :=
  let cs := skipBlank cs
  let cs := if cs.head? = some '#' then cs.dropWhile isPlain else cs
  if cs.isEmpty then some [] else newline? cs

/-- Read a header after its first bracket. -/
def header? (cs : List Char) : Option (Header × List Char) :=
  match cs with
  | '[' :: cs => do
    let (path, cs) ← path? cs
    let cs ← Instant.mark? ']' cs
    let cs ← Instant.mark? ']' cs
    pure (⟨path, true⟩, cs)
  | cs => do
    let (path, cs) ← path? cs
    let cs ← Instant.mark? ']' cs
    pure (⟨path, false⟩, cs)

/-- Read a statement. -/
def statement? : List Char → Option (Statement × List Char)
  | '[' :: cs => (header? cs).map fun (h, rest) => (.header h, rest)
  | cs => (pair? (value? (depthLimit - 1)) cs).map fun (p, rest) => (.pair p, rest)

/-- Read all statements, each on lines of its own; `fuel` bounds their number. -/
def statements? : Nat → List Char → Option (List Statement)
  | 0, _ => none
  | fuel + 1, cs =>
    match skipLines false cs with
    | [] => some []
    | cs => do
      let (s, cs) ← statement? cs
      let cs ← lineEnd? cs
      (statements? fuel cs).map (s :: ·)

/-- The characters without the mark of byte order in front. -/
def dropMark : List Char → List Char
  | '\ufeff' :: cs => cs
  | cs => cs

/-- Read a document. -/
def ofText? (s : String) : Option Entries := do
  let cs := dropMark s.toList
  ofStatements? (← statements? (cs.length + 1) cs)

end LogQuery.Toml
