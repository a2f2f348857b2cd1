import LogQuery.Text.Lowercase
import LogQuery.Unicode.CodeSet

/-!
# Unicode.Fold — characters that differ in case only

Two characters are equal up to case when they fold to the same character. Most fold to their
lower-case form; a few lower-case characters fold to another one.

* `CodeSet.foldClosed` adds to a set all characters that are equal up to case to one in it.
-/

namespace LogQuery.Unicode

/-- Lower-case characters that fold to another character. -/
def foldExceptions : List (Nat × Nat) := [
  (0xb5, 0x3bc), (0x17f, 0x73), (0x345, 0x3b9), (0x3c2, 0x3c3), (0x3d0, 0x3b2), (0x3d1, 0x3b8),
  (0x3d5, 0x3c6), (0x3d6, 0x3c0), (0x3f0, 0x3ba), (0x3f1, 0x3c1), (0x3f5, 0x3b5),
  (0x1c80, 0x432), (0x1c81, 0x434), (0x1c82, 0x43e), (0x1c83, 0x441), (0x1c84, 0x442),
  (0x1c85, 0x442), (0x1c86, 0x44a), (0x1c87, 0x463), (0x1c88, 0xa64b), (0x1e9b, 0x1e61),
  (0x1fbe, 0x3b9), (0x1fd3, 0x390), (0x1fe3, 0x3b0), (0xfb05, 0xfb06)]

/-- The pairs of a character and the other character that it folds to. -/
def foldPairs : List (Nat × Nat) :=
  foldExceptions ++ Text.lowerRuns.flatMap fun (first, last, step, shift) =>
    (List.range ((last - first) / step + 1)).map fun i =>
      (first + step * i, (((first + step * i : Nat) : Int) + shift).toNat)

/-- The set with all characters that are equal up to case to one of its characters. -/
def CodeSet.foldClosed (s : CodeSet) : CodeSet :=
  let images := (foldPairs.filter fun (c, f) => s.contains c || s.contains f).map (·.2)
  let folded := CodeSet.ofRanges (images.map fun f => (f, f))
  let sources := (foldPairs.filter fun (_, f) => folded.contains f).map (·.1)
  s.union (folded.union (.ofRanges (sources.map fun c => (c, c))))

/-- The set with both cases of its ASCII letters. -/
def CodeSet.foldClosedAscii (s : CodeSet) : CodeSet :=
  let letters := List.range 26
  s.union <| .unions [
    .ofRanges ((letters.filter fun i => s.contains (0x41 + i)).map fun i => (0x61 + i, 0x61 + i)),
    .ofRanges ((letters.filter fun i => s.contains (0x61 + i)).map fun i => (0x41 + i, 0x41 + i))]

end LogQuery.Unicode
