import LogQuery.Proofs.Color.Winner
import LogQuery.Proofs.Filter.Hidden

/-!
# Proofs.Color.Failing — color rules that win although they failed

The rules are judged by the verdicts of their filters, and errors are not looked at. A rule that wins may have
failed on the record; the filters that do so are those that hide a failure.

* `pick_fails_iff`: when the rule that wins has failed.
* `pick_failing`: each way of hiding a failure makes a rule win that failed.
-/

namespace LogQuery.ColorRule

open LogQuery.Filter

variable {ρ : Type} (e : Evaluator ρ) (record : ρ)

/-- **The rule that wins has failed if and only if its filter hides a failure.** Its filter is true of the record
in any case; where the filter is direct, no error is recorded. -/
theorem pick_fails_iff (rules : List ColorRule) {i : ℕ} (h : pick e rules record = some i) :
    ∃ r, rules[i]? = some r ∧ r.enabled = true ∧ (e.evaluate r.rule.root record).1 = true ∧
      ((e.evaluate r.rule.root record).2.errors ≠ [] ↔ Hides e record e.limit [] r.rule.root) ∧
      (Direct e.registry r.rule.root → (e.evaluate r.rule.root record).2.errors = []) := by
  obtain ⟨r, hr, ⟨henabled, htrue⟩, -⟩ := (pick_eq_some_iff e record rules i).mp h
  refine ⟨r, hr, henabled, htrue, evaluate_fails_iff_hides e record htrue, fun hdirect => ?_⟩
  exact errors_eq_nil_of_direct e record hdirect htrue

/-! ## Rules that win although they failed -/

/-- A comparison with a field that no record has. -/
def flagged : Node := .compare (.field ⟨"flag", .boolean⟩) .equal (.literal (.boolean true))

/-- Records are their texts, without fields, and one filter is saved. -/
def bare : Evaluator String where
  resolver := ⟨fun _ _ => none, id⟩
  registry := .ofList [("flagged", .named "flagged" flagged)]

/-- The first rule is for records that are flagged, and the second is for the others. -/
def bareRules : List ColorRule := [{ rule := .named "flagged" flagged }, { rule := .named "plain" (.not flagged) }]

/-- Without the field both rules fail. The first does not apply, and the second wins all the same. -/
theorem pick_fails_iff_bare :
    pick bare bareRules "boot" = some 1 ∧ (bare.evaluate (.not flagged) "boot").2.errors = [.fieldNotFound "flag"] ∧
      Hides bare "boot" bare.limit [] (.not flagged) := by
  have hpick : pick bare bareRules "boot" = some 1 := by cbv
  have herrors : (bare.evaluate (.not flagged) "boot").2.errors = [.fieldNotFound "flag"] := by cbv
  obtain ⟨r, hr, -, -, hiff, -⟩ := pick_fails_iff bare "boot" bareRules hpick
  have hroot : r.rule.root = .not flagged := by
    rw [bareRules, List.getElem?_cons_succ, List.getElem?_cons_zero, Option.some_inj] at hr
    rw [← hr, Rule.named]
  rw [hroot, herrors] at hiff
  exact ⟨hpick, herrors, hiff.mp (List.cons_ne_nil _ _)⟩

/-- A negation of what failed. -/
def negatedRule : ColorRule := { rule := .named "plain" (.not flagged) }

/-- An alternative to what failed. -/
def alternativeRule : ColorRule := { rule := .named "plain" (.expression .or false flagged [.search "boot"]) }

/-- The verdict of a saved filter that failed. -/
def comparedRule : ColorRule :=
  { rule := .named "plain" (.compare (.rule "flagged") .equal (.literal (.boolean false))) }

/-- A rule with each of these filters wins, and its filter has failed on the record. -/
theorem pick_failing :
    (pick bare [negatedRule] "boot" = some 0 ∧
      (bare.evaluate negatedRule.rule.root "boot").2.errors = [.fieldNotFound "flag"]) ∧
    (pick bare [alternativeRule] "boot" = some 0 ∧
      (bare.evaluate alternativeRule.rule.root "boot").2.errors = [.fieldNotFound "flag"]) ∧
    (pick bare [comparedRule] "boot" = some 0 ∧
      (bare.evaluate comparedRule.rule.root "boot").2.errors = [.fieldNotFound "flag"]) := by
  refine ⟨⟨?_, ?_⟩, ⟨?_, ?_⟩, ⟨?_, ?_⟩⟩
  all_goals cbv

end LogQuery.ColorRule
