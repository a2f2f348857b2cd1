import LogQuery.Pattern.Bytes
import LogQuery.Pattern.Simplify

/-!
# Pattern.Plan — what the matcher of an expression is made of

A matcher reads a text by bytes, forwards or backwards. Its plan says which kinds of states it
needs, before any state is made.

* `Expr.plan` is the plan of an expression in one of the directions.
-/

namespace LogQuery.Pattern

/-- The way in which a matcher reads a text. -/
inductive Direction where
  | forward
  | backward
  deriving DecidableEq

/-- What a matcher is made of. -/
inductive Plan where
  /-- States in a row that each lead to the next one. -/
  | row (count : Nat)
  /-- One of some ranges of ASCII characters. -/
  | table (ranges : Nat)
  /-- The bytes of one character, where all characters share one tree. -/
  | tree (t : ByteTree)
  /-- The bytes of one character from the last one on, for each sequence of byte ranges. -/
  | chains (sequences : List (List ByteRange))
  /-- Any of the literals, given by their bytes. -/
  | words (literals : List (List Nat))
  /-- All items, one after the other. -/
  | sequence (items : List Plan)
  /-- Any one of the branches, of which there are at least two. -/
  | choice (branches : List Plan)
  /-- The body a number of times; `mayBeEmpty` says whether it may match no characters. -/
  | repeated (body : Plan) (mayBeEmpty : Bool) (least : Nat) (most : Option Nat)
  /-- A body between the states that keep its place in the text. -/
  | group (body : Plan)

/-- The bytes of characters in UTF-8. -/
def bytesOf (cs : List Char) : List Nat := cs.flatMap fun c => encode c.toNat

/-- The characters of a literal. -/
def Expr.literal? : Expr → Option (List Char)
  | .literal cs => some cs
  | _ => none

/-- The bytes of all branches in the order of reading, if all branches are literals. -/
def wordsOf? (dir : Direction) (branches : List Expr) : Option (List (List Nat)) :=
  (branches.mapM Expr.literal?).map fun literals =>
    literals.map fun cs => if dir = .forward then bytesOf cs else (bytesOf cs).reverse

mutual

/-- The plan of an expression. Groups are only kept forwards. -/
def Expr.plan (dir : Direction) : Expr → Plan
  | .empty => .row 1
  | .literal cs => .row (bytesOf cs).length
  | .oneOf set _ =>
    if set.isAscii then .table set.ranges.length
    else if dir = .forward then .tree (.ofSet set)
    else .chains (setSequences set)
  | .anchor _ => .row 1
  | .sequence items =>
    if dir = .forward then .sequence (planList dir items)
    else .sequence (planList dir items).reverse
  | .choice branches =>
    match wordsOf? dir branches with
    | some words => .words words
    | none => .choice (planList dir branches)
  | .repeated body least most _ =>
    .repeated (body.plan dir) ((body.minLength.getD 0) == 0) least most
  | .group _ body => if dir = .forward then .group (body.plan dir) else body.plan dir

/-- The plans of a list of expressions. -/
def planList (dir : Direction) : List Expr → List Plan
  | [] => []
  | e :: es => e.plan dir :: planList dir es

end

mutual

/-- Whether every match of the expression starts at the start of the text. -/
def Expr.startsText : Expr → Bool
  | .anchor a => a == .textStart
  | .sequence items => firstStartsText items
  | .choice branches => allStartText branches
  | .repeated body least _ _ => least != 0 && body.startsText
  | .group _ body => body.startsText
  | _ => false

/-- Whether one of the items up to the first one with a width starts at the start of the text. -/
def firstStartsText : List Expr → Bool
  | [] => false
  | e :: es => e.startsText || (e.isWidthless && firstStartsText es)

/-- Whether all branches start at the start of the text. -/
def allStartText : List Expr → Bool
  | [] => true
  | e :: es => e.startsText && allStartText es

end

mutual

/-- Whether every match of the expression ends at the end of the text. -/
def Expr.endsText : Expr → Bool
  | .anchor a => a == .textEnd
  | .sequence items => lastEndsText items
  | .choice branches => allEndText branches
  | .repeated body least _ _ => least != 0 && body.endsText
  | .group _ body => body.endsText
  | _ => false

/-- Whether one of the items from the last one with a width on ends at the end of the text. -/
def lastEndsText : List Expr → Bool
  | [] => false
  | e :: es => lastEndsText es || (allWidthless es && e.endsText)

/-- Whether all branches end at the end of the text. -/
def allEndText : List Expr → Bool
  | [] => true
  | e :: es => e.endsText && allEndText es

end

/-- Whether a matcher that reads in this direction can only start at an end of the text. -/
def Expr.isFixed (dir : Direction) (e : Expr) : Bool :=
  if dir = .forward then e.startsText else e.endsText

end LogQuery.Pattern
