/-!
# Unicode.CodeSet — sets of code points

A set is a list of ranges in increasing order. All operations but the complement over all code
points are made of two: bringing ranges into order, and the complement.

* `CodeSet.ofRanges` puts ranges in order and joins those that meet.
-/

namespace LogQuery.Unicode

/-- A set of code points, as ranges `(first, last)` in increasing order. -/
structure CodeSet where
  ranges : List (Nat × Nat)
  deriving DecidableEq

/-- The greatest code point. -/
def lastCode : Nat := 0x10ffff

namespace CodeSet

/-- The empty set. -/
def empty : CodeSet := ⟨[]⟩

/-- All code points. -/
def all : CodeSet := ⟨[(0, lastCode)]⟩

/-- The set of one code point. -/
def single (n : Nat) : CodeSet := ⟨[(n, n)]⟩

/-- Whether a code point is in one of the ordered ranges. -/
def inOrdered (n : Nat) : List (Nat × Nat) → Bool
  | [] => false
  | (first, last) :: rest => if n < first then false else n ≤ last || inOrdered n rest

/-- Whether a code point is in the set. -/
def contains (s : CodeSet) (n : Nat) : Bool := inOrdered n s.ranges

/-- Join ordered ranges that meet the range before them. -/
def coalesce (first last : Nat) : List (Nat × Nat) → List (Nat × Nat)
  | [] => [(first, last)]
  | (f, l) :: rest =>
    if f ≤ last + 1 then coalesce first (max last l) rest else (first, last) :: coalesce f l rest

/-- The set of the code points in any of the ranges. -/
def ofRanges (ranges : List (Nat × Nat)) : CodeSet :=
  match ranges.mergeSort fun a b => a.1 < b.1 || (a.1 == b.1 && a.2 ≤ b.2) with
  | [] => empty
  | (first, last) :: rest => ⟨coalesce first last rest⟩

/-- Whether a code point is a surrogate, which is no character. -/
def isSurrogate (n : Nat) : Bool := 0xd800 ≤ n && n ≤ 0xdfff

/-- The range from `first` to `last` without surrogates at its ends, if anything is left. -/
def trimmed (first last : Nat) : List (Nat × Nat) :=
  let first := if isSurrogate first then 0xe000 else first
  let last := if isSurrogate last then 0xd7ff else last
  if first ≤ last then [(first, last)] else []

/-- The gaps between ordered ranges, from `start` on. -/
def gaps (start : Nat) : List (Nat × Nat) → List (Nat × Nat)
  | [] => trimmed start lastCode
  | (first, last) :: rest =>
    if start < first then trimmed start (first - 1) ++ gaps (last + 1) rest
    else gaps (last + 1) rest

/-- The code points outside the set. -/
def complement (s : CodeSet) : CodeSet := ⟨gaps 0 s.ranges⟩

/-- The code points in either set. -/
def union (s t : CodeSet) : CodeSet :=
  if s.ranges.isEmpty then t else if t.ranges.isEmpty then s else ofRanges (s.ranges ++ t.ranges)

/-- The code points in both sets. -/
def inter (s t : CodeSet) : CodeSet := (s.complement.union t.complement).complement

/-- The code points in the first set only. -/
def diff (s t : CodeSet) : CodeSet := s.inter t.complement

/-- The code points in exactly one of the sets. -/
def symmDiff (s t : CodeSet) : CodeSet := (s.union t).diff (s.inter t)

/-- The code points in any of the sets. -/
def unions (sets : List CodeSet) : CodeSet := ofRanges (sets.flatMap (·.ranges))

/-- Whether every code point of the set is an ASCII character. -/
def isAscii (s : CodeSet) : Bool := s.ranges.all fun (_, last) => last < 0x80

/-- The value of a lower-case hexadecimal digit. -/
def hexDigit (c : Char) : Nat :=
  if c.isDigit then c.toNat - '0'.toNat else c.toNat - 'a'.toNat + 10

/-- The ranges of an item of a text: one code point, a range, or every so many code points of a
range. -/
def itemRanges : List Nat → List (Nat × Nat)
  | [code] => [(code, code)]
  | [first, last] => [(first, last)]
  | [first, last, step] =>
    (List.range ((last - first) / step + 1)).map fun i => (first + step * i, first + step * i)
  | _ => []

/-- Read the text of a set: single code points `aa`, ranges `41-5a`, and `100-12e/2` for every
second code point of a range, with blanks and line ends between them. -/
def ofText (s : String) : CodeSet :=
  let rec read (numbers : List Nat) (current : Nat) : List Char → List (Nat × Nat)
    | [] => itemRanges (current :: numbers).reverse
    | '\n' :: cs => read numbers current cs
    | ' ' :: ' ' :: cs => read numbers current (' ' :: cs)
    | ' ' :: cs => itemRanges (current :: numbers).reverse ++ read [] 0 cs
    | '-' :: cs => read (current :: numbers) 0 cs
    | '/' :: cs => read (current :: numbers) 0 cs
    | c :: cs => read numbers (16 * current + hexDigit c) cs
  match s.toList with
  | [] => empty
  | cs => ⟨read [] 0 cs⟩

end CodeSet

end LogQuery.Unicode
