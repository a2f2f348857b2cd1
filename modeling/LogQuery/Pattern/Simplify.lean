import LogQuery.Pattern.Expr

/-!
# Pattern.Simplify — expressions put together in a simple form

Expressions are built by the functions of this module, which match the same texts as the plain
constructors. Sequences hold no sequences, no empty items and no two literals side by side; choices
hold no choices, and those of characters become sets.

* `Expr.ofSet`, `Expr.ofItems`, `Expr.ofBranches` and `Expr.times` build expressions.
* `Expr.isWidthless` and `Expr.minLength` bound the bytes that an expression may match.
-/

namespace LogQuery.Pattern

open Unicode (CodeSet)

/-- The expression that matches nothing. -/
def Expr.nothing : Expr := .oneOf .empty true

/-- One character of a set; a set of one character is a literal. -/
def Expr.ofSet (s : CodeSet) (ascii : Bool) : Expr :=
  match s.ranges with
  | [] => .nothing
  | [(first, last)] => if first = last then .literal [Char.ofNat first] else .oneOf s ascii
  | _ => .oneOf s ascii

mutual

/-- Whether every match of the expression is known to be empty. -/
def Expr.isWidthless : Expr → Bool
  | .empty => true
  | .literal _ => false
  | .oneOf _ _ => false
  | .anchor _ => true
  | .sequence items => allWidthless items
  | .choice branches => allWidthless branches
  | .repeated body _ most _ => most.isSome && body.isWidthless
  | .group _ body => body.isWidthless

/-- Whether every match of each expression is known to be empty. -/
def allWidthless : List Expr → Bool
  | [] => true
  | e :: es => e.isWidthless && allWidthless es

end

/-- The sum of two lengths, if both are known. -/
def addLengths (m n : Option Nat) : Option Nat := do pure ((← m) + (← n))

mutual

/-- The least number of bytes of a match; none if there may be no match at all. -/
def Expr.minLength : Expr → Option Nat
  | .empty => some 0
  | .literal cs => some (cs.foldl (fun n c => n + c.utf8Size) 0)
  | .oneOf set _ => set.ranges.head?.map fun (first, _) => (Char.ofNat first).utf8Size
  | .anchor _ => some 0
  | .sequence items => sumLengths items
  | .choice branches => leastLength branches
  | .repeated body least _ _ => body.minLength.map (· * least)
  | .group _ body => body.minLength

/-- The least number of bytes of a match of all items, one after the other. -/
def sumLengths : List Expr → Option Nat
  | [] => some 0
  | e :: es => addLengths e.minLength (sumLengths es)

/-- The least number of bytes of a match of one of the branches; none if that of one of them is
none. -/
def leastLength : List Expr → Option Nat
  | [] => none
  | [e] => e.minLength
  | e :: es => do pure (min (← e.minLength) (← leastLength es))

end

/-- An expression a number of times. What matches no characters is never needed twice. -/
def Expr.times (e : Expr) (least : Nat) (most : Option Nat) (greedy : Bool) : Expr :=
  let (least, most) :=
    if e.isWidthless then (min least 1, some (min (most.getD 1) 1)) else (least, most)
  if most = some 0 then .empty
  else if least = 1 ∧ most = some 1 then e
  else .repeated e least most greedy

/-- Join literals that stand side by side. -/
def joinLiterals : List Expr → List Expr
  | [] => []
  | .literal cs :: es =>
    match joinLiterals es with
    | .literal ds :: rest => .literal (cs ++ ds) :: rest
    | rest => .literal cs :: rest
  | e :: es => e :: joinLiterals es

/-- The items that an expression adds to a sequence. -/
def Expr.items : Expr → List Expr
  | .empty => []
  | .sequence items => items
  | e => [e]

/-- The branches that an expression adds to a choice. -/
def Expr.branches : Expr → List Expr
  | .choice branches => branches
  | e => [e]

/-- All items, one after the other. -/
def Expr.ofItems (items : List Expr) : Expr :=
  match joinLiterals (items.flatMap Expr.items) with
  | [] => .empty
  | [e] => e
  | items => .sequence items

/-- The set of a literal of one character. -/
def Expr.singleton? : Expr → Option CodeSet
  | .literal [c] => some (.single c.toNat)
  | _ => none

/-- The set of an expression for one character of a set. -/
def Expr.set? : Expr → Option CodeSet
  | .oneOf set _ => some set
  | _ => none

/-- The items that two lists have in common at their starts. -/
def commonStart : List Expr → List Expr → List Expr
  | d :: ds, e :: es => if d.same e then d :: commonStart ds es else []
  | _, _ => []

/-- The items with which all branches start, if all are sequences that start alike. -/
def sharedStart? : List Expr → Option (List Expr)
  | [] => none
  | [.sequence items] => some items
  | .sequence items :: es => do
    let shared ← sharedStart? es
    match commonStart items shared with
    | [] => none
    | shared => pure shared
  | _ => none

/-- Any one of the branches, where items that all of them start with are taken out at most `rounds`
times. -/
def choiceOf : Nat → List Expr → Expr
  | 0, branches => .choice branches
  | rounds + 1, branches =>
    match branches.flatMap Expr.branches with
    | [] => .nothing
    | [e] => e
    | branches =>
      match branches.mapM Expr.singleton? <|> branches.mapM Expr.set? with
      | some sets => .ofSet (.unions sets) false
      | none =>
        match sharedStart? branches with
        | some shared =>
          let ends := branches.map fun e => Expr.ofItems (e.items.drop shared.length)
          .ofItems (shared ++ [choiceOf rounds ends])
        | none => .choice branches

/-- Any one of the branches. Every round takes an item out of each branch, so that there are fewer
rounds than expressions. -/
def Expr.ofBranches (branches : List Expr) : Expr := choiceOf (countList branches + 1) branches

end LogQuery.Pattern
