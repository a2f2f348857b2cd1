import LogQuery.Pattern.Bracket
import LogQuery.Pattern.Space

/-!
# Pattern.Reader — the text form of regular expressions

The syntax has no look-around and no back-references.

* `read?` reads a pattern; none when it is not well formed, nested too deeply or too large.
-/

namespace LogQuery.Pattern

open Unicode (CodeSet)

/-! ## Atoms, counts and groups -/

/-- The expression for an atom outside of sets. A byte outside of ASCII is no character. -/
def Atom.expr? (f : Flags) : Atom → Option Expr
  | .char c byte =>
    if f.unicode || c.toNat < 0x80 then some (.ofSet (f.fold (.single c.toNat)) !f.unicode)
    else if byte then none
    else some (.literal [c])
  | .set s => some (.ofSet s !f.unicode)
  | .anchor a => some (.anchor a)

/-- The characters that a point stands for. -/
def Flags.anyCharacter (f : Flags) : CodeSet :=
  if f.dotAll then .all
  else if f.carriage then CodeSet.complement ⟨[(0x0a, 0x0a), (0x0d, 0x0d)]⟩
  else (CodeSet.single 0x0a).complement

/-- Read an atom outside of sets. -/
def atom? (f : Flags) : List Char → Option (Expr × List Char)
  | [] => none
  | '\\' :: cs => do
    let (atom, rest) ← escape? f cs
    let e ← atom.expr? f
    pure (e, rest)
  | '.' :: cs => if f.unicode then some (.ofSet f.anyCharacter false, cs) else none
  | '^' :: cs => some (.anchor (if f.multiLine then .lineStart f.carriage else .textStart), cs)
  | '$' :: cs => some (.anchor (if f.multiLine then .lineEnd f.carriage else .textEnd), cs)
  | c :: cs => ((Atom.char c false).expr? f).map (·, cs)

/-- Read the digits of a count, which may have blanks around them; at most `fuel` characters. -/
def countDigits (f : Flags) : Nat → List Char → List Char × List Char
  | 0, cs => ([], cs)
  | fuel + 1, cs =>
    match cs with
    | c :: rest =>
      if c.isDigit then
        let (ds, rest) := countDigits f fuel (f.skip rest)
        (c :: ds, rest)
      else ([], cs)
    | [] => ([], [])

/-- Read a count, of at most 32 bits. The outer option says whether there are digits. -/
def count (f : Flags) (cs : List Char) : Option (Option Nat) × List Char :=
  let (ds, rest) := countDigits f cs.length (cs.dropWhile Text.isBlank)
  let rest := (f.skip (rest.dropWhile Text.isBlank)).dropWhile Text.isBlank
  if ds.isEmpty then (none, rest)
  else
    let n := ds.foldl (fun n d => 10 * n + (d.toNat - '0'.toNat)) 0
    (some (if n < 2 ^ 32 then some n else none), rest)

/-- Read the bounds of a repetition after its opening brace. -/
def counted? (f : Flags) (cs : List Char) : Option (Nat × Option Nat × List Char) := do
  let (least?, rest) := count f (f.skip cs)
  match rest with
  | ',' :: rest =>
    let least ← least?.join
    match f.skip rest with
    | '}' :: rest => pure (least, none, rest)
    | rest =>
      let (most?, rest) := count f rest
      let most ← most?.join
      guard (least ≤ most)
      match rest with
      | '}' :: rest => pure (least, some most, rest)
      | _ => none
  | '}' :: rest =>
    let least ← least?.join
    pure (least, some least, rest)
  | _ => none

/-- Read flags up to a colon or a closing parenthesis: the changed flags and whether any was given.
A flag may be given once, one minus may stand among them, and a flag must follow it. -/
def flagItems? : Flags → List Char → Bool → Bool → List Char → Option (Flags × Bool × List Char)
  | _, _, _, _, [] => none
  | f, seen, negative, dangling, c :: cs =>
    if c = ':' ∨ c = ')' then
      if dangling then none else some (f, !seen.isEmpty, c :: cs)
    else if c = '-' then
      if negative then none else flagItems? f ('-' :: seen) true true cs
    else if seen.contains c then none
    else (f.set? c !negative).bind fun f => flagItems? f (c :: seen) negative false cs

/-- Whether a character is a letter of a name. -/
def isNameLetter (c : Char) : Bool :=
  Unicode.alphabeticSet.contains c.toNat || Unicode.newerAlphabeticSet.contains c.toNat

/-- Whether a character is a digit of a name or another number. -/
def isNameNumber (c : Char) : Bool :=
  Unicode.numberSet.contains c.toNat || Unicode.newerNumberSet.contains c.toNat

/-- Whether a character may stand in the name of a group, or start it. -/
def isNameChar (first : Bool) (c : Char) : Bool :=
  c == '_' || isNameLetter c ||
    (!first && (c == '.' || c == '[' || c == ']' || isNameNumber c))

/-- Read the name of a group up to its closing angle. -/
def groupName? (cs : List Char) : Option (List Char × List Char) :=
  let (name, rest) := cs.span (· != '>')
  match name, rest with
  | c :: more, '>' :: rest =>
    if isNameChar true c && more.all (isNameChar false) then some (c :: more, rest) else none
  | _, _ => none

/-- The place reached in a pattern: what is left, the flags that hold, and the groups so far. -/
structure Scan where
  rest : List Char
  flags : Flags
  /-- The number of the next group. -/
  number : Nat
  names : List (List Char)

/-- What an opening parenthesis starts. -/
inductive Opening where
  /-- A change of flags for the rest of the group around it. -/
  | directive (s : Scan)
  /-- A group, with its number if its place is kept, and the flags that hold inside. -/
  | group (number : Option Nat) (s : Scan)

/-- Read what follows an opening parenthesis. -/
def opening? (s : Scan) (cs : List Char) : Option Opening :=
  let named (cs : List Char) : Option Opening := do
    let (name, rest) ← groupName? cs
    guard (!s.names.contains name)
    pure (.group (some s.number) { s with rest, number := s.number + 1, names := name :: s.names })
  match s.flags.skip cs with
  | '?' :: '=' :: _ => none
  | '?' :: '!' :: _ => none
  | '?' :: '<' :: '=' :: _ => none
  | '?' :: '<' :: '!' :: _ => none
  | '?' :: 'P' :: '<' :: cs => named cs
  | '?' :: '<' :: cs => named cs
  | '?' :: cs => do
    let (flags, given, rest) ← flagItems? s.flags [] false false cs
    match rest with
    | ')' :: rest => if given then pure (.directive { s with rest, flags }) else none
    | _ :: rest => pure (.group none { s with rest, flags })
    | [] => none
  | cs => some (.group (some s.number) { s with rest := cs, number := s.number + 1 })

/-- What was read of a pattern: its expression and how deeply its text is nested. A change of flags
matches the empty text, but cannot be repeated. -/
structure Piece where
  expr : Expr
  depth : Nat
  repeatable : Bool := true

namespace Piece

/-- A change of flags. -/
def directive : Piece := ⟨.empty, 0, false⟩

/-- The greatest depth of some pieces. -/
def depths (pieces : List Piece) : Nat := (pieces.map Piece.depth).foldl max 0

/-- A branch of pieces, latest first. One piece is no deeper as a branch. -/
def ofItems (pieces : List Piece) : Piece :=
  match pieces with
  | [] => ⟨.empty, 0, true⟩
  | [piece] => piece
  | pieces => ⟨.ofItems (pieces.reverse.map Piece.expr), depths pieces + 1, true⟩

/-- The choice between branches, latest first. One branch is no choice. -/
def ofBranches (pieces : List Piece) : Piece :=
  match pieces with
  | [piece] => piece
  | pieces => ⟨.ofBranches (pieces.reverse.map Piece.expr), depths pieces + 1, true⟩

/-- A piece a number of times. -/
def times? (piece : Piece) (least : Nat) (most : Option Nat) (greedy : Bool) : Option Piece :=
  if piece.repeatable then some ⟨piece.expr.times least most greedy, piece.depth + 1, true⟩
  else none

/-- A piece in parentheses, as a numbered group if it has a number. -/
def inGroup (piece : Piece) (number : Option Nat) : Piece :=
  ⟨match number with | some n => .group n piece.expr | none => piece.expr, piece.depth + 1, true⟩

end Piece

/-- Read the mark behind a repetition that turns its preference around: whether it is there. -/
def preferenceMark : List Char → Bool × List Char
  | '?' :: cs => (true, cs)
  | cs => (false, cs)

/-- Read branches up to a closing parenthesis or the end. Every call but the last reads a
character, so `fuel` above the number of characters is enough. -/
def branches? : Nat → Scan → List Piece → List Piece → Option (Piece × Scan)
  | 0, _, _, _ => none
  | fuel + 1, s, done, items =>
    let f := s.flags
    let finish (rest : List Char) :=
      some (Piece.ofBranches (Piece.ofItems items :: done), { s with rest })
    let next (piece : Piece) (rest : List Char) :=
      branches? fuel { s with rest } done (piece :: items)
    let repeated (least : Nat) (most : Option Nat) (rest : List Char) :=
      match items with
      | [] => none
      | piece :: items =>
        let (marked, rest) := preferenceMark rest
        (piece.times? least most (marked == f.swapGreed)).bind fun piece =>
          branches? fuel { s with rest } done (piece :: items)
    match f.skip s.rest with
    | [] => finish []
    | ')' :: rest => finish (')' :: rest)
    | '|' :: rest => branches? fuel { s with rest } (Piece.ofItems items :: done) []
    | '?' :: rest => repeated 0 (some 1) rest
    | '*' :: rest => repeated 0 none rest
    | '+' :: rest => repeated 1 none rest
    | '{' :: rest => (counted? f rest).bind fun (least, most, rest) =>
      repeated least most (f.skip rest)
    | '(' :: rest => do
      match ← opening? s rest with
      | .directive s => branches? fuel s done (.directive :: items)
      | .group number inner =>
        let (piece, after) ← branches? fuel inner [] []
        match after.rest with
        | ')' :: rest =>
          branches? fuel { after with rest, flags := f } done (piece.inGroup number :: items)
        | _ => none
    | '[' :: rest => do
      let (set, rest) ← bracket? f rest
      next ⟨.ofSet set.set !f.unicode, set.depth, true⟩ rest
    | cs => do
      let (e, rest) ← atom? f cs
      next ⟨e, 0, true⟩ rest

/-- How deeply a pattern may be nested. -/
def depthLimit : Nat := 250

/-- Read a pattern; none if it is not well formed or exceeds a limit. -/
def read? (cs : List Char) : Option Expr := do
  let (piece, s) ← branches? (cs.length + 1) ⟨cs, {}, 1, []⟩ [] []
  guard (s.rest.isEmpty && piece.depth ≤ depthLimit && piece.expr.fits)
  pure piece.expr

end LogQuery.Pattern
