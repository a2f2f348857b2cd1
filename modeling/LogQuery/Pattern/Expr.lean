import LogQuery.Unicode.Property

/-!
# Pattern.Expr — regular expressions and what they match

An expression relates positions of a text: those where a match may start with those where it may
end. `Expr.reach` computes the ends for a whole set of starts at once, so that a repetition is
followed until no new position comes in.

* `Expr.matches` says whether some part of the text matches.
* `Expr.same` compares expressions.
-/

namespace LogQuery.Pattern

open Unicode (CodeSet)

/-- A test of the two characters next to a position. -/
inductive Anchor where
  | textStart
  | textEnd
  /-- The start of a line; with `carriage`, a carriage return ends a line as well. -/
  | lineStart (carriage : Bool)
  | lineEnd (carriage : Bool)
  /-- A word starts or ends here; with `ascii`, only ASCII characters make words. -/
  | wordEdge (ascii : Bool)
  | noWordEdge (ascii : Bool)
  | wordStart (ascii : Bool)
  | wordEnd (ascii : Bool)
  | wordStartHalf (ascii : Bool)
  | wordEndHalf (ascii : Bool)
  deriving DecidableEq

/-- A regular expression. -/
inductive Expr where
  /-- The empty text. -/
  | empty
  /-- The given characters, one after the other; there is at least one. -/
  | literal (cs : List Char)
  /-- One character of a set. With `ascii`, the set was written for matching by ASCII alone. -/
  | oneOf (set : CodeSet) (ascii : Bool)
  | anchor (a : Anchor)
  /-- All items, one after the other. -/
  | sequence (items : List Expr)
  /-- Any one of the branches. -/
  | choice (branches : List Expr)
  /-- The body at least `least` times and, if there is a bound, at most `most` times. With `greedy`,
  more rounds are preferred; this does not change what matches. -/
  | repeated (body : Expr) (least : Nat) (most : Option Nat) (greedy : Bool)
  /-- A body whose place in the text is kept. Groups are numbered in the order in which they
  start. -/
  | group (number : Nat) (body : Expr)

/-- A text in which positions are counted from its start. -/
structure Subject where
  chars : Array Char

namespace Subject

/-- The text as a subject. -/
def ofString (s : String) : Subject := ⟨s.toList.toArray⟩

/-- The character after a position. -/
def after? (t : Subject) (i : Nat) : Option Char := t.chars[i]?

/-- The character before a position. -/
def before? (t : Subject) (i : Nat) : Option Char := if i = 0 then none else t.chars[i - 1]?

end Subject

/-- The characters of words in ASCII. -/
def asciiWordSet : CodeSet := ⟨[(0x30, 0x39), (0x41, 0x5a), (0x5f, 0x5f), (0x61, 0x7a)]⟩

/-- Whether there is a character and it is one of a word. -/
def isWord (ascii : Bool) (c : Option Char) : Bool :=
  c.any fun c =>
    asciiWordSet.contains c.toNat || (!ascii && 0x80 ≤ c.toNat && Unicode.wordSet.contains c.toNat)

/-- Whether an anchor holds between the two characters. -/
def Anchor.holds (a : Anchor) (before after : Option Char) : Bool :=
  match a with
  | .textStart => before.isNone
  | .textEnd => after.isNone
  | .lineStart false => before.isNone || before == some '\n'
  | .lineStart true =>
    before.isNone || before == some '\n' || (before == some '\r' && after != some '\n')
  | .lineEnd false => after.isNone || after == some '\n'
  | .lineEnd true =>
    after.isNone || after == some '\r' || (after == some '\n' && before != some '\r')
  | .wordEdge ascii => isWord ascii before != isWord ascii after
  | .noWordEdge ascii => isWord ascii before == isWord ascii after
  | .wordStart ascii => !isWord ascii before && isWord ascii after
  | .wordEnd ascii => isWord ascii before && !isWord ascii after
  | .wordStartHalf ascii => !isWord ascii before
  | .wordEndHalf ascii => !isWord ascii after

/-- The union of two increasing lists of positions. -/
def mergePositions : List Nat → List Nat → List Nat
  | [], js => js
  | is, [] => is
  | i :: is, j :: js =>
    if i < j then i :: mergePositions is (j :: js)
    else if j < i then j :: mergePositions (i :: is) js
    else i :: mergePositions is js

/-- The positions of the first increasing list that are not in the second. -/
def newPositions : List Nat → List Nat → List Nat
  | [], _ => []
  | is, [] => is
  | i :: is, j :: js =>
    if i < j then i :: newPositions is (j :: js)
    else if j < i then newPositions (i :: is) js
    else newPositions is js

/-- Apply a step a number of times. -/
def steps (step : List Nat → List Nat) : Nat → List Nat → List Nat
  | 0, starts => starts
  | count + 1, starts => steps step count (step starts)

/-- The positions reached in at most `count` steps: `seen` so far, `front` in the last one. -/
def spread (step : List Nat → List Nat) : Nat → List Nat → List Nat → List Nat
  | 0, seen, _ => seen
  | count + 1, seen, front =>
    match newPositions (step front) seen with
    | [] => seen
    | new => spread step count (mergePositions seen new) new

/-- The position behind the given characters if they stand at a position. -/
def Subject.behind? (t : Subject) : List Char → Nat → Option Nat
  | [], i => some i
  | c :: cs, i => if t.after? i = some c then t.behind? cs (i + 1) else none

mutual

/-- The positions where a match of the expression may end that starts at one of `starts`. -/
def Expr.reach (t : Subject) : Expr → List Nat → List Nat
  | .empty, starts => starts
  | .literal cs, starts => starts.filterMap (t.behind? cs)
  | .oneOf set _, starts =>
    starts.filterMap fun i =>
      (t.after? i).bind fun c => if set.contains c.toNat then some (i + 1) else none
  | .anchor a, starts => starts.filter fun i => a.holds (t.before? i) (t.after? i)
  | .sequence items, starts => reachAll t items starts
  | .choice branches, starts => reachAny t branches starts
  | .repeated body least most _, starts =>
    let front := steps (body.reach t) least starts
    spread (body.reach t) ((most.map (· - least)).getD (t.chars.size + 1)) front front
  | .group _ body, starts => body.reach t starts

/-- The positions where matches of all items, one after the other, may end. -/
def reachAll (t : Subject) : List Expr → List Nat → List Nat
  | [], starts => starts
  | e :: es, starts => reachAll t es (e.reach t starts)

/-- The positions where a match of one of the branches may end. -/
def reachAny (t : Subject) : List Expr → List Nat → List Nat
  | [], _ => []
  | e :: es, starts => mergePositions (e.reach t starts) (reachAny t es starts)

end

/-- Whether some part of the text matches the expression. -/
def Expr.matches (e : Expr) (t : Subject) : Bool :=
  !(e.reach t (List.range (t.chars.size + 1))).isEmpty

mutual

/-- Whether two expressions are the same. -/
def Expr.same : Expr → Expr → Bool
  | .empty, .empty => true
  | .literal cs, .literal ds => cs == ds
  | .oneOf s a, .oneOf t b => s == t && a == b
  | .anchor a, .anchor b => a == b
  | .sequence ds, .sequence es => sameList ds es
  | .choice ds, .choice es => sameList ds es
  | .repeated d least most greedy, .repeated e least' most' greedy' =>
    d.same e && least == least' && most == most' && greedy == greedy'
  | .group m d, .group n e => m == n && d.same e
  | _, _ => false

/-- Whether two lists hold the same expressions. -/
def sameList : List Expr → List Expr → Bool
  | [], [] => true
  | d :: ds, e :: es => d.same e && sameList ds es
  | _, _ => false

end

mutual

/-- How many expressions there are in an expression, itself included. -/
def Expr.count : Expr → Nat
  | .sequence items => countList items + 1
  | .choice branches => countList branches + 1
  | .repeated body _ _ _ => body.count + 1
  | .group _ body => body.count + 1
  | _ => 1

/-- How many expressions there are in a list of expressions. -/
def countList : List Expr → Nat
  | [] => 0
  | e :: es => e.count + countList es

end

end LogQuery.Pattern
