/-!
# Text.Substring — occurrences of one text in another

* `occursIn_iff`: `occursIn` decides whether one list of characters is a contiguous part of another.
* `cutAt?_eq_some`: a cut puts its separator between the two parts it returns.
-/

namespace LogQuery.Text

/-- Whether `needle` is a contiguous part of the text. -/
def occursIn (needle : List Char) : List Char → Bool
  | [] => needle.isEmpty
  | c :: cs => needle.isPrefixOf (c :: cs) || occursIn needle cs

/-- The parts before and after the first occurrence of `sep`. -/
def cutAt? (sep : List Char) : List Char → Option (List Char × List Char)
  | [] => if sep.isEmpty then some ([], []) else none
  | c :: cs =>
    if sep.isPrefixOf (c :: cs) then some ([], (c :: cs).drop sep.length)
    else (cutAt? sep cs).map fun (before, after) => (c :: before, after)

/-- Write `new` for every occurrence of `old`, found from left to right without overlap; the
counter is the number of characters that the last occurrence still covers. -/
def replaceFrom (old new : List Char) : Nat → List Char → List Char
  | _, [] => []
  | covered + 1, _ :: cs => replaceFrom old new covered cs
  | 0, c :: cs =>
    if old.isPrefixOf (c :: cs) then new ++ replaceFrom old new (old.length - 1) cs
    else c :: replaceFrom old new 0 cs

/-- Write `new` for every occurrence of the nonempty text `old`. -/
def replaceAll (old new : String) (s : String) : String :=
  String.ofList (replaceFrom old.toList new.toList 0 s.toList)

/-- The parts of a text between the separators, with `part` as the start of the first one. -/
def splitFrom (sep : Char) (part : List Char) : List Char → List (List Char)
  | [] => [part.reverse]
  | c :: cs =>
    if c = sep then part.reverse :: splitFrom sep [] cs else splitFrom sep (c :: part) cs

/-- The parts of a text between the separators, one more than there are separators. -/
def splitAt (sep : Char) (s : String) : List String :=
  (splitFrom sep [] s.toList).map String.ofList

/-- Whether the text `needle` occurs in `s`. -/
def contains (s needle : String) : Bool := occursIn needle.toList s.toList

theorem occursIn_iff {needle cs : List Char} : occursIn needle cs = true ↔ needle <:+: cs := by
  induction cs with
  | nil => simp [occursIn]
  | cons c cs ih => simp [occursIn, ih, List.infix_cons_iff]

theorem cutAt?_eq_some {sep cs before after : List Char}
    (h : cutAt? sep cs = some (before, after)) : cs = before ++ sep ++ after := by
  induction cs generalizing before after with
  | nil =>
    simp only [cutAt?] at h
    split at h <;> simp_all
  | cons c cs ih =>
    simp only [cutAt?] at h
    split at h
    · rename_i hp
      obtain ⟨rest, hrest⟩ := List.isPrefixOf_iff_prefix.1 hp
      simp only [Option.some.injEq, Prod.mk.injEq] at h
      rw [← h.1, ← h.2, ← hrest]
      simp
    · obtain ⟨⟨b, a⟩, hcut, heq⟩ := Option.map_eq_some_iff.1 h
      simp only [Prod.mk.injEq] at heq
      rw [ih hcut, ← heq.1, ← heq.2]
      simp

end LogQuery.Text
