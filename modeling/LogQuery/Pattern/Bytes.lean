import LogQuery.Power
import LogQuery.Unicode.CodeSet

/-!
# Pattern.Bytes — the bytes of the characters of a set

In UTF-8 the characters of a range are not one range of bytes at each place. A range is cut until
the first and the last character of each part give the ranges of the bytes of all its characters.

* `byteSequences` cuts a range, `setSequences` all ranges of a set.
* `ByteTree.ofSequences` joins the sequences that start alike.
-/

namespace LogQuery.Pattern

open Unicode (CodeSet)

/-- A range of bytes, with its first and its last one. -/
abbrev ByteRange := Nat × Nat

/-- The bytes of a code point in UTF-8. -/
def encode (n : Nat) : List Nat :=
  if n < 0x80 then [n]
  else if n < 0x800 then [0xc0 + n / 64, 0x80 + n % 64]
  else if n < 0x10000 then [0xe0 + n / 64 ^ 2, 0x80 + n / 64 % 64, 0x80 + n % 64]
  else [0xf0 + n / 64 ^ 3, 0x80 + n / 64 ^ 2 % 64, 0x80 + n / 64 % 64, 0x80 + n % 64]

/-- Where to cut a range so that each part covers whole blocks of this size or lies in one block. -/
def blockCut (first last block : Nat) : List Nat :=
  if first / block = last / block then []
  else if first % block ≠ 0 then [(first / block + 1) * block]
  else if last % block ≠ block - 1 then [last / block * block]
  else []

/-- Where a range may have to be cut, in the order of preference: where the number of bytes changes,
then where a byte changes while those behind it do not go through all their values. -/
def cuts (first last : Nat) : List Nat :=
  [0x80, 0x800, 0x10000] ++
    (if first < 0x80 then [] else [64, 64 ^ 2, 64 ^ 3].flatMap (blockCut first last))

/-- The sequences of byte ranges of the code points from `first` to `last`, in their order. -/
def byteSequences (first last : Nat) : List (List ByteRange) :=
  match _h : (cuts first last).find? fun cut => first < cut && cut ≤ last with
  | some cut => byteSequences first (cut - 1) ++ byteSequences cut last
  | none => [(encode first).zip (encode last)]
termination_by last - first
decreasing_by all_goals
  have := List.find?_some _h
  simp only [Bool.and_eq_true, decide_eq_true_eq] at this
  omega

/-- The parts of a range that are characters: surrogates are none. -/
def characterParts (first last : Nat) : List (Nat × Nat) :=
  [(first, min last 0xd7ff), (max first 0xe000, last)].filter fun (first, last) => first ≤ last

/-- The sequences of byte ranges of the characters of a set, in their order. -/
def setSequences (s : CodeSet) : List (List ByteRange) :=
  s.ranges.flatMap fun (first, last) =>
    (characterParts first last).flatMap fun (first, last) => byteSequences first last

/-- Sequences of byte ranges as a tree: each branch is a range with what may follow it. -/
inductive ByteTree where
  | node (branches : List (ByteRange × ByteTree))

/-- Sequences in groups of neighbors with one first range, each with what follows it. -/
def groupByFirst : List (List ByteRange) → List (ByteRange × List (List ByteRange))
  | [] => []
  | [] :: rest => groupByFirst rest
  | (range :: tail) :: rest =>
    match groupByFirst rest with
    | (next, tails) :: groups =>
      if range = next then (range, tail :: tails) :: groups
      else (range, [tail]) :: (next, tails) :: groups
    | [] => [(range, [tail])]

/-- The tree of sequences that have at most `depth` ranges. -/
def ByteTree.ofSequences : (depth : Nat) → List (List ByteRange) → ByteTree
  | 0, _ => .node []
  | depth + 1, sequences =>
    .node ((groupByFirst sequences).map fun (range, tails) => (range, ofSequences depth tails))

/-- The tree of the characters of a set, which have at most four bytes. -/
def ByteTree.ofSet (s : CodeSet) : ByteTree := .ofSequences 4 (setSequences s)

end LogQuery.Pattern
