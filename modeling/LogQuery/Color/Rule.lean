import LogQuery.Color.Style
import LogQuery.Filter.Evaluate

/-!
# Color.Rule — colors for the records that filters accept

Of the rules that accept a record the one with the least priority wins, and of several such rules
the one declared first.

* `ColorRule.pick` finds the winning rule.
-/

namespace LogQuery

open LogQuery.Filter

/-- A saved filter with the colors of the records it accepts. -/
structure ColorRule where
  rule : Rule
  foreground : Option Color := none
  background : Option Color := none
  /-- Rules of a lesser priority win. -/
  priority : Int := 0
  /-- Whether the rule counts at all. -/
  enabled : Bool := true

namespace ColorRule

/-- A style with the colors of the rule; where the rule has no color the style keeps its own. -/
def paint (r : ColorRule) (s : Style) : Style :=
  { s with
    foreground := r.foreground <|> s.foreground
    background := r.background <|> s.background }

/-- Whether the rule counts and accepts a record. -/
def accepts {ρ : Type} (e : Evaluator ρ) (record : ρ) (r : ColorRule) : Bool :=
  r.enabled && e.accepts r.rule.root record

/-- The index of the first rule of least priority among those that apply. The rules here start at
`index`, and `best` is the winner among those before, with its priority. -/
def pickFrom (applies : ColorRule → Bool) (index : Nat) (best : Option (Nat × Int)) :
    List ColorRule → Option Nat
  | [] => best.map (·.1)
  | r :: rest =>
    let better := applies r && best.all fun b => r.priority < b.2
    pickFrom applies (index + 1) (if better then some (index, r.priority) else best) rest

/-- The index of the rule that wins on a record. -/
def pick {ρ : Type} (e : Evaluator ρ) (rules : List ColorRule) (record : ρ) : Option Nat :=
  pickFrom (accepts e record) 0 none rules

end ColorRule

end LogQuery
