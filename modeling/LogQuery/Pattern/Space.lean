import LogQuery.Pattern.Plan
import Std.Data.HashMap

/-!
# Pattern.Space — how much space the matcher of an expression takes

A matcher has states, and states that lead to several others keep links to them. The states for
characters outside of ASCII are shared as far as a memory of bounded size can tell, so that their
number is found by making them.

* `Plan.draft?` adds the states of a plan to a draft of a matcher.
* `Expr.fits` says whether the matchers of an expression stay within the limit.
-/

namespace LogQuery.Pattern

/-- How much space a matcher may take, in bytes. -/
def spaceLimit : Nat := 10 * 2 ^ 20

/-- A matcher in the making: the number of its states, and the space of their links. -/
structure Draft where
  states : Nat
  links : Nat

/-- The space of a draft. A state takes 32 bytes without its links. -/
def Draft.space (d : Draft) : Nat := 32 * d.states + d.links

/-- Add states that each lead to one other. -/
def Draft.row (d : Draft) (count : Nat) : Draft := { d with states := d.states + count }

/-- Add a state that leads on by ranges of bytes, with eight bytes for each. -/
def Draft.table (d : Draft) (ranges : Nat) : Draft :=
  { states := d.states + 1, links := d.links + 8 * ranges }

/-- Add a state that leads to several others whatever comes, with four bytes for each. -/
def Draft.fork (d : Draft) (ways : Nat) : Draft :=
  { states := d.states + 1, links := d.links + 4 * ways }

/-- Add ways to forks that are there already. -/
def Draft.ways (d : Draft) (ways : Nat) : Draft := { d with links := d.links + 4 * ways }

/-- A draft after a part was added. If the part ends in a fork, what follows takes a way of it. -/
structure Part where
  draft : Draft
  isFork : Bool

/-- The draft of a part that is followed by something. -/
def Part.joined (p : Part) : Draft := p.draft.ways p.isFork.toNat

/-! ## Characters outside of ASCII -/

/-- States that were made already, by what they do. There are some places, each for the latest state
among those that belong there. -/
structure Memory where
  places : Nat
  known : Std.HashMap Nat (List Nat × Nat)

/-- The place of what a state does. -/
def Memory.place (m : Memory) (key : List Nat) : Nat :=
  let hash := key.foldl (fun (h : UInt64) n => (h ^^^ n.toUInt64) * 1099511628211)
    14695981039346656037
  hash.toNat % m.places

/-- The number of the state that does the same, if it is still known. -/
def Memory.find? (m : Memory) (key : List Nat) : Option Nat :=
  match m.known[m.place key]? with
  | some (known, state) => if known = key then some state else none
  | none => none

/-- Keep the number of the state that does this. -/
def Memory.insert (m : Memory) (key : List Nat) (state : Nat) : Memory :=
  { m with known := m.known.insert (m.place key) (key, state) }

/-- A draft with the states that it may share. -/
structure Sharing where
  draft : Draft
  memory : Memory

mutual

/-- Add the states of a tree whose sequences end in the state `target`; also the number of the first
one. -/
def ByteTree.draft (target : Nat) : ByteTree → Sharing → Nat × Sharing
  | .node branches, s =>
    match branches with
    | [] => (target, s)
    | branches =>
      let (links, s) := draftBranches target branches s
      match s.memory.find? links with
      | some state => (state, s)
      | none =>
        (s.draft.states,
          ⟨s.draft.table branches.length, s.memory.insert links s.draft.states⟩)

/-- Add the states behind the branches; also the links of the state before them: first byte, last
byte and state for each. -/
def draftBranches (target : Nat) : List (ByteRange × ByteTree) → Sharing → List Nat × Sharing
  | [], s => ([], s)
  | ((first, last), t) :: branches, s =>
    let (next, s) := t.draft target s
    let (links, s) := draftBranches target branches s
    (first :: last :: next :: links, s)

end

/-- Add the states for a sequence of byte ranges that is read from its last byte on and leads to the
state `next`. -/
def draftChain : Nat → List ByteRange → Sharing → Sharing
  | _, [], s => s
  | next, (first, last) :: ranges, s =>
    match s.memory.find? [next, first, last] with
    | some state => draftChain state ranges s
    | none =>
      let state := s.draft.states
      draftChain state ranges ⟨s.draft.row 1, s.memory.insert [next, first, last] state⟩

/-! ## Literals -/

/-- Literals in groups that start with the same byte, each with the rests of its literals. -/
def groupByByte (literals : List (List Nat)) : List (List (List Nat)) :=
  (literals.filterMap List.head?).eraseDups.map fun byte =>
    literals.filterMap fun literal => if literal.head? = some byte then some literal.tail else none

/-- Literals of which those that are over before any other count once. -/
def dropRepeated : List (List Nat) → List (List Nat)
  | [] :: [] :: rest => dropRepeated ([] :: rest)
  | literals => literals

/-- Literals up to each one that is over, in the order given. -/
def untilOver : List (List Nat) → List (List (List Nat))
  | [] => [[]]
  | [] :: rest => [] :: untilOver rest
  | literal :: rest =>
    match untilOver rest with
    | chunk :: chunks => (literal :: chunk) :: chunks
    | [] => [[literal]]

/-- Add the states of a tree of literals that have at most `depth` bytes. -/
def draftWords : (depth : Nat) → List (List Nat) → Draft → Draft
  | 0, _, d => d
  | depth + 1, literals, d =>
    if literals.all List.isEmpty then d
    else
      let chunks := untilOver (dropRepeated literals)
      let full := chunks.filter fun chunk => !chunk.isEmpty
      full.foldl (fun d chunk =>
        let groups := groupByByte chunk
        let d := groups.foldl (fun d literals => draftWords depth literals d) d
        if groups.length = 1 then d.row 1 else d.table groups.length)
        (d.fork (full.length + (chunks.length - 1)))

/-! ## All plans -/

/-- Add a part a number of times behind another; none if that takes too much space. -/
def copies? (add : Draft → Option Part) : Nat → Part → Option Part
  | 0, part => some part
  | count + 1, part =>
    match add part.joined with
    | none => none
    | some part => if spaceLimit < part.draft.space then none else copies? add count part

/-- Add a part a number of times, one after the other. -/
def exactly? (add : Draft → Option Part) (count : Nat) (d : Draft) : Option Part :=
  match count with
  | 0 => some ⟨d.row 1, false⟩
  | count + 1 => (add d).bind (copies? add count)

/-- Add a part at least a number of times, where the last one may come again. -/
def atLeast? (add : Draft → Option Part) (mayBeEmpty : Bool) (count : Nat) (d : Draft) :
    Option Part :=
  match count with
  | 0 =>
    if mayBeEmpty then (add d).map fun part => ⟨((part.joined.fork 2).fork 2).row 1, false⟩
    else (add (d.fork 1)).map fun part => ⟨part.joined, true⟩
  | 1 => (add d).map fun part => ⟨part.joined.fork 1, true⟩
  | count => do
    let part ← exactly? add (count - 1) d
    let last ← add part.joined
    pure ⟨last.joined.fork 1, true⟩

/-- Add a part that may be left out, a number of times. -/
def optional? (add : Draft → Option Part) (count : Nat) (part : Part) : Option Part :=
  copies? (fun d => add (d.fork 2)) count part

/-- Add a part between two numbers of times. -/
def between? (add : Draft → Option Part) (least most : Nat) (d : Draft) : Option Part := do
  let part ← exactly? add least d
  if least = most then pure part
  else
    let part ← optional? add (most - least) ⟨part.draft.row 1, part.isFork⟩
    pure ⟨part.joined, false⟩

mutual

/-- Add the states of a plan to a draft; none if that takes too much space. -/
def Plan.draft? : Plan → Draft → Option Part
  | .row count, d => some ⟨d.row count, false⟩
  | .table ranges, d => some ⟨(d.row 1).table ranges, false⟩
  | .tree t, d =>
    let (_, s) := t.draft d.states ⟨d.row 1, ⟨10000, ∅⟩⟩
    some ⟨s.draft, false⟩
  | .chains sequences, d =>
    let target := d.states + 1
    let s := sequences.foldl (fun s ranges => draftChain target ranges s)
      ⟨(d.fork sequences.length).row 1, ⟨1000, ∅⟩⟩
    some ⟨s.draft, false⟩
  | .words literals, d =>
    some ⟨draftWords ((literals.map List.length).foldl max 0) literals (d.row 1), false⟩
  | .sequence items, d => draftItems? items d
  | .choice branches, d => draftFirst? branches d
  | .repeated body mayBeEmpty least most, d =>
    match least, most with
    | 0, some 1 => (body.draft? (d.fork 2)).map fun part => ⟨part.joined.row 1, false⟩
    | least, none => atLeast? (fun d => body.draft? d) mayBeEmpty least d
    | least, some most => between? (fun d => body.draft? d) least most d
  | .group body, d => (body.draft? (d.row 1)).map fun part => ⟨part.joined.row 1, false⟩

/-- Add the states of items, one after the other. -/
def draftItems? : List Plan → Draft → Option Part
  | [], d => some ⟨d.row 1, false⟩
  | [item], d => item.draft? d
  | item :: items, d => (item.draft? d).bind fun part => draftItems? items part.joined

/-- Add the states of branches: the first two, then the fork before all of them and the state behind
all of them, then the others. -/
def draftFirst? : List Plan → Draft → Option Part
  | first :: second :: branches, d => do
    let one ← first.draft? d
    let two ← second.draft? one.joined
    draftOthers? branches ((two.joined.fork 2).row 1)
  | [branch], d => branch.draft? d
  | [], d => some ⟨d.row 1, false⟩

/-- Add the states of further branches of a fork. -/
def draftOthers? : List Plan → Draft → Option Part
  | [], d => some ⟨d, false⟩
  | branch :: branches, d =>
    (branch.draft? d).bind fun part => draftOthers? branches (part.joined.ways 1)

end

/-- The matcher of an expression; none if that takes too much space. Before the expression stands a
search for its start, unless the start is fixed. The place of the whole match is kept forwards. -/
def Expr.matcher? (dir : Direction) (e : Expr) : Option Draft := do
  let search : Draft := if e.isFixed dir then ⟨1, 0⟩ else (((Draft.mk 0 0).fork 2).row 1).table 1
  let plan := if dir = .forward then .group (e.plan dir) else e.plan dir
  let part ← plan.draft? search
  let matcher := part.joined.row 1
  if spaceLimit < matcher.space then none else some matcher

/-- Whether the matchers of an expression in both directions stay within the limit. -/
def Expr.fits (e : Expr) : Bool := (e.matcher? .forward).isSome && (e.matcher? .backward).isSome

end LogQuery.Pattern
