import LogQuery.Pattern.Escape

/-!
# Pattern.Bracket — sets in brackets

* `bracket?` reads a set after its opening bracket, with nested sets and set operators.
-/

namespace LogQuery.Pattern

open Unicode (CodeSet)

/-- The code point of a character in a set. Matching by ASCII alone has sets of ASCII only. -/
def setCode? (f : Flags) (c : Char) : Option Nat :=
  if f.unicode || c.toNat < 0x80 then some c.toNat else none

/-- The set that an atom in a set stands for; a place is none. -/
def Atom.asSet? (f : Flags) : Atom → Option CodeSet
  | .char c _ => (setCode? f c).map .single
  | .set s => some s
  | .anchor _ => none

/-- The named classes of ASCII. -/
def asciiClass? : String → Option CodeSet
  | "alnum" => some ⟨[(0x30, 0x39), (0x41, 0x5a), (0x61, 0x7a)]⟩
  | "alpha" => some ⟨[(0x41, 0x5a), (0x61, 0x7a)]⟩
  | "ascii" => some ⟨[(0x00, 0x7f)]⟩
  | "blank" => some ⟨[(0x09, 0x09), (0x20, 0x20)]⟩
  | "cntrl" => some ⟨[(0x00, 0x1f), (0x7f, 0x7f)]⟩
  | "digit" => some ⟨[(0x30, 0x39)]⟩
  | "graph" => some ⟨[(0x21, 0x7e)]⟩
  | "lower" => some ⟨[(0x61, 0x7a)]⟩
  | "print" => some ⟨[(0x20, 0x7e)]⟩
  | "punct" => some ⟨[(0x21, 0x2f), (0x3a, 0x40), (0x5b, 0x60), (0x7b, 0x7e)]⟩
  | "space" => some ⟨[(0x09, 0x0d), (0x20, 0x20)]⟩
  | "upper" => some ⟨[(0x41, 0x5a)]⟩
  | "word" => some asciiWordSet
  | "xdigit" => some ⟨[(0x30, 0x39), (0x41, 0x46), (0x61, 0x66)]⟩
  | _ => none

/-- Read a named class of ASCII, after its opening bracket, as in `[:alpha:]` or, negated, as in
`[:^alpha:]`. -/
def asciiItem? : List Char → Option (Bool × CodeSet × List Char)
  | ':' :: cs =>
    let (negated, cs) := match cs with
      | '^' :: cs => (true, cs)
      | cs => (false, cs)
    let (name, rest) := cs.span (· != ':')
    match rest with
    | ':' :: ']' :: rest =>
      (asciiClass? (String.ofList name)).map fun s => (negated, s, rest)
    | _ => none
  | _ => none

/-- Read one character or escape in a set. -/
def classAtom? (f : Flags) : List Char → Option (Atom × List Char)
  | [] => none
  | '\\' :: cs => escape? f cs
  | c :: cs => some (.char c false, cs)

/-- The first character that counts behind a hyphen in a set. -/
def behindHyphen (f : Flags) (cs : List Char) : Option Char :=
  if f.extended then
    match cs.dropWhile Text.isBlank with
    | '#' :: rest => (rest.dropWhile Text.isBlank).head?
    | rest => rest.head?
  else cs.head?

/-- Read one item of a set: an atom, or a range between two characters. -/
def classRange? (f : Flags) (cs : List Char) : Option (CodeSet × List Char) := do
  let (first, rest) ← classAtom? f cs
  match f.skip rest with
  | [] => none
  | '-' :: rest =>
    let next := behindHyphen f rest
    if next = some ']' ∨ next = some '-' then
      let s ← first.asSet? f
      pure (s, '-' :: rest)
    else
      let (last, rest) ← classAtom? f (f.skip rest)
      match first, last with
      | .char a _, .char b _ =>
        guard (a ≤ b)
        let low ← setCode? f a
        let high ← setCode? f b
        pure (⟨[(low, high)]⟩, rest)
      | _, _ => none
  | rest =>
    let s ← first.asSet? f
    pure (s, rest)

/-- The operators between the items of a set. -/
inductive SetOperator where
  | inter
  | diff
  | symmDiff

/-- A set with how deeply brackets, operators and lists of items are nested in its text. -/
structure Nested where
  set : CodeSet
  depth : Nat

/-- Items of a set: what they hold together, how many there are, and the greatest of their
depths. -/
structure ItemList where
  set : CodeSet
  count : Nat
  depth : Nat

namespace ItemList

/-- No items. -/
def empty : ItemList := ⟨.empty, 0, 0⟩

/-- One more item. -/
def add (items : ItemList) (item : Nested) : ItemList :=
  ⟨items.set.union item.set, items.count + 1, max items.depth item.depth⟩

/-- The items as a set. Two items or more are one level deeper than their items. -/
def nested (items : ItemList) : Nested :=
  ⟨items.set, if items.count < 2 then items.depth else items.depth + 1⟩

end ItemList

/-- A set operator that waits for its right side. -/
structure Pending where
  op : SetOperator
  left : Nested

/-- Apply a waiting operator to the items read since. -/
def Flags.apply (f : Flags) (pending : Option Pending) (right : Nested) : Nested :=
  match pending with
  | none => right
  | some ⟨op, left⟩ =>
    let l := f.fold left.set
    let r := f.fold right.set
    let set := match op with
      | .inter => l.inter r
      | .diff => l.diff r
      | .symmDiff => l.symmDiff r
    ⟨set, max left.depth right.depth + 1⟩

/-- Read hyphens that stand for themselves at the start of a set; at most `fuel` of them. -/
def leadingHyphens (f : Flags) : Nat → ItemList → List Char → ItemList × List Char
  | 0, items, cs => (items, cs)
  | fuel + 1, items, cs =>
    match cs with
    | '-' :: rest => leadingHyphens f fuel (items.add ⟨.single '-'.toNat, 0⟩) (f.skip rest)
    | cs => (items, cs)

/-- Read the start of a set after its bracket: whether it is negated, and the hyphens or the closing
bracket that stand for themselves there. -/
def bracketStart (f : Flags) (cs : List Char) : Bool × ItemList × List Char :=
  let cs := f.skip cs
  let (negated, cs) := match cs with
    | '^' :: rest => (true, f.skip rest)
    | cs => (false, cs)
  let (items, rest) := leadingHyphens f cs.length .empty cs
  match rest with
  | ']' :: after =>
    if items.count = 0 then (negated, items.add ⟨.single ']'.toNat, 0⟩, f.skip after)
    else (negated, items, rest)
  | rest => (negated, items, rest)

/-- Read the items of a set up to its closing bracket. Every call but the last reads a character,
so `fuel` above the number of characters is enough. -/
def bracketItems? (f : Flags) : Nat → Option Pending → ItemList → List Char →
    Option (Nested × List Char)
  | 0, _, _, _ => none
  | fuel + 1, pending, items, cs =>
    let operator (op : SetOperator) (rest : List Char) :=
      bracketItems? f fuel (some ⟨op, f.apply pending items.nested⟩) .empty rest
    match f.skip cs with
    | [] => none
    | '[' :: rest =>
      match asciiItem? rest with
      | some (negated, s, rest) => do
        let s ← f.foldNegate? negated s
        bracketItems? f fuel pending (items.add ⟨s, 0⟩) rest
      | none => do
        let (negated, start, rest) := bracketStart f rest
        let (inner, rest) ← bracketItems? f fuel none start rest
        let s ← f.foldNegate? negated inner.set
        bracketItems? f fuel pending (items.add ⟨s, inner.depth + 1⟩) rest
    | ']' :: rest => some (f.apply pending items.nested, rest)
    | '&' :: '&' :: rest => operator .inter rest
    | '-' :: '-' :: rest => operator .diff rest
    | '~' :: '~' :: rest => operator .symmDiff rest
    | cs => do
      let (s, rest) ← classRange? f cs
      bracketItems? f fuel pending (items.add ⟨s, 0⟩) rest

/-- Read a set after its opening bracket. -/
def bracket? (f : Flags) (cs : List Char) : Option (Nested × List Char) := do
  let (negated, start, rest) := bracketStart f cs
  let (inner, rest) ← bracketItems? f (rest.length + 1) none start rest
  let s ← f.foldNegate? negated inner.set
  pure (⟨s, inner.depth + 1⟩, rest)

end LogQuery.Pattern
