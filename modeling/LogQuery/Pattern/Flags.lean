import LogQuery.Text.Blank
import LogQuery.Unicode.Fold

/-!
# Pattern.Flags — how a part of a pattern is read

Flags in a pattern choose case folding, line mode, and matching by ASCII alone. They hold up to the
end of the group that they stand in.

* `Flags.skip` skips what may stand between the parts of a pattern.
* `Flags.foldNegate?` brings a set into the form that it has under the flags.
-/

namespace LogQuery.Pattern

open Unicode (CodeSet)

/-- The flags that hold at a place of a pattern. -/
structure Flags where
  ignoreCase : Bool := false
  multiLine : Bool := false
  dotAll : Bool := false
  carriage : Bool := false
  /-- Blanks and comments between the parts of the pattern are skipped. -/
  extended : Bool := false
  unicode : Bool := true
  /-- Repetitions prefer fewer rounds unless they are marked. -/
  swapGreed : Bool := false

/-- Set the flag with a given letter; none if there is none. -/
def Flags.set? (f : Flags) (letter : Char) (on : Bool) : Option Flags :=
  match letter with
  | 'i' => some { f with ignoreCase := on }
  | 'm' => some { f with multiLine := on }
  | 's' => some { f with dotAll := on }
  | 'R' => some { f with carriage := on }
  | 'x' => some { f with extended := on }
  | 'u' => some { f with unicode := on }
  | 'U' => some { f with swapGreed := on }
  | _ => none

/-- Skip blanks and comments; the flag says whether a comment has begun. -/
def skipExtended : Bool → List Char → List Char
  | _, [] => []
  | true, c :: cs => skipExtended (c != '\n') cs
  | false, c :: cs =>
    if Text.isBlank c then skipExtended false cs
    else if c = '#' then skipExtended true cs
    else c :: cs

/-- Skip what the flags let stand between the parts of a pattern. -/
def Flags.skip (f : Flags) (cs : List Char) : List Char :=
  if f.extended then skipExtended false cs else cs

/-- The negation of a set of characters. Where one range ends right before the surrogates and the
next one starts right behind them, the two characters at these ends stay in. -/
def negate (s : CodeSet) : CodeSet :=
  let ends := s.ranges.any (·.2 == 0xd7ff) && s.ranges.any (·.1 == 0xe000)
  if ends then s.complement.union ⟨[(0xd7ff, 0xe000)]⟩ else s.complement

/-- Close a set under case folding if the flags ask for it. -/
def Flags.fold (f : Flags) (s : CodeSet) : CodeSet :=
  if f.ignoreCase then (if f.unicode then s.foldClosed else s.foldClosedAscii) else s

/-- Close a set under case folding, then negate it if asked. Matching by ASCII alone has no negated
sets, since they hold more than ASCII. -/
def Flags.foldNegate? (f : Flags) (negated : Bool) (s : CodeSet) : Option CodeSet :=
  if !negated then some (f.fold s)
  else if f.unicode then some (negate (f.fold s))
  else none

end LogQuery.Pattern
