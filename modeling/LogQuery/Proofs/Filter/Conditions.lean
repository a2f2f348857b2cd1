import LogQuery.Proofs.Filter.Substitution

/-!
# Proofs.Filter.Conditions — conditions that are added to a saved filter

A condition is joined to all that the body of a saved filter says so far. The body becomes a part of its
own, or it takes the condition as a further part: if it is plain and has the same connective, or if it has
one part only, so that its connective says nothing. Both ways mean the body and the condition, joined by the
connective; the second way takes a level less.

* `withCondition_root`: the two ways.
* `condition_beside`: a further part of a body stands for a part beside the body.
* `withConditions_standsFor`: so does a body to which conditions are added one after the other.
* `evaluate_withConditions`: it is evaluated like the nested filter with one group for each condition.
-/

namespace LogQuery.Filter

/-- A filter with conditions joined to it one after the other, each to the group of all before it. -/
def Node.nested (n : Node) (steps : List (Connective × Node)) : Node :=
  steps.foldl (fun n step => .expression step.1 false n [step.2]) n

/-- A saved filter with conditions added to it one after the other. -/
def Rule.withConditions (r : Rule) (steps : List (Connective × Node)) : Rule :=
  steps.foldl (fun r step => r.withCondition step.1 step.2) r

/-- A condition is a part beside the body, or a further part of a plain body whose connective fits. -/
theorem withCondition_root (r : Rule) (op : Connective) (condition : Node) :
    (r.withCondition op condition).root = .expression op false r.root [condition] ∨
      ∃ op' first rest, r.root = .expression op' false first rest ∧ (op' = op ∨ rest = []) ∧
        (r.withCondition op condition).root = .expression op false first (rest ++ [condition]) := by
  obtain ⟨name, root, hname⟩ := r
  cases root with
  | expression op' negated first rest =>
    cases negated with
    | true => exact .inl rfl
    | false =>
      by_cases hfits : (decide (op' = op) || rest.isEmpty) = true
      · have heither : op' = op ∨ rest = [] := by simpa using hfits
        refine .inr ⟨op', first, rest, rfl, heither, ?_⟩
        simp only [Rule.withCondition, Rule.withRoot, if_pos hfits]
      · left
        simp only [Rule.withCondition, Rule.withRoot, if_neg hfits]
  | _ => exact .inl rfl

/-- Parts that are added at the end are evaluated with the verdict so far. -/
theorem restOutcome_append (judge : Node → Outcome) (op : Connective) (verdict : Bool)
    (nodes nodes' : List Node) :
    restOutcome judge op verdict (nodes ++ nodes') =
      ((restOutcome judge op (restOutcome judge op verdict nodes).1 nodes').1,
        (restOutcome judge op verdict nodes).2 ++
          (restOutcome judge op (restOutcome judge op verdict nodes).1 nodes').2) := by
  induction nodes generalizing verdict with
  | nil => rfl
  | cons node nodes ih =>
    by_cases hdecided : verdict = decide (op = .or)
    · have hstop : ∀ more, restOutcome judge op verdict more = (verdict, []) := by
        intro more
        cases more with
        | nil => rfl
        | cons => rw [restOutcome, if_pos hdecided]
      rw [hstop, hstop, hstop]
      rfl
    · rw [List.cons_append, restOutcome, restOutcome, if_neg hdecided, if_neg hdecided]
      simp only [ih, List.append_assoc]

section

variable {ρ : Type} (e : Evaluator ρ) (record : ρ)

/-- **A further part of a body stands for a part beside the body**, one level below it. -/
theorem condition_beside {op op' : Connective} {first condition : Node} {rest : List Node}
    (hfits : op' = op ∨ rest = []) : StandsFor e record (fun err => err.isDepth = false)
      (.expression op false (.expression op' false first rest) [condition])
      (.expression op false first (rest ++ [condition])) := by
  intro levels trail hsettled
  cases levels with
  | zero => rfl
  | succ levels =>
    rw [outcome] at hsettled
    obtain ⟨hbody, -⟩ := List.forall_mem_append.mp hsettled
    -- the body loses its level, which makes no difference to what it gives
    have hraised := outcome_succ e record levels trail _ hbody
    have hconnective : ∀ verdict, restOutcome (outcome e record levels trail) op' verdict rest =
        restOutcome (outcome e record levels trail) op verdict rest := by
      intro verdict
      rcases hfits with rfl | rfl
      · rfl
      · rfl
    rw [outcome, outcome, ← hraised, outcome]
    simp only [hconnective, restOutcome_append, Bool.bne_false, List.append_assoc]

variable {n : Node} {r : Rule} (h : StandsFor e record (fun err => err.isDepth = false) n r.root)
include h

/-- One condition: the body with the condition stands for what the body stands for, with the condition
beside it. -/
theorem withCondition_standsFor (op : Connective) (condition : Node) :
    StandsFor e record (fun err => err.isDepth = false) (.expression op false n [condition])
      (r.withCondition op condition).root := by
  have hgroup : StandsFor e record (fun err => err.isDepth = false) (.expression op false n [condition])
      (.expression op false r.root [condition]) :=
    outcome_replaces e record h (.inside op false .here (.cons (.same condition) .nil))
  rcases withCondition_root r op condition with hroot | ⟨op', first, rest, hbody, hfits, hroot⟩
  · rwa [hroot]
  · rw [hroot]
    rw [hbody] at hgroup
    exact hgroup.trans e record (condition_beside e record hfits)

/-- All conditions: by induction, with the filter that the body stands for so far. -/
theorem withConditions_standsFor (steps : List (Connective × Node)) :
    StandsFor e record (fun err => err.isDepth = false) (n.nested steps) (r.withConditions steps).root := by
  induction steps generalizing n r with
  | nil => exact h
  | cons step steps ih => exact ih (withCondition_standsFor e record h step.1 step.2)

end

theorem withConditions_name (r : Rule) (steps : List (Connective × Node)) :
    (r.withConditions steps).name = r.name := by
  induction steps generalizing r with
  | nil => rfl
  | cons step steps ih => exact ih (r.withCondition step.1 step.2)

/-- **Added conditions keep the grouping.** However many conditions are added to a saved filter, with
whatever connectives, it keeps its name, and its body is evaluated like the filter that sets each condition
beside the group of all that was there before, with the same verdict and the same errors on every record. The
nested filter must not meet the limit on levels; the body then does not meet it either. -/
theorem evaluate_withConditions {ρ : Type} (e : Evaluator ρ) (record : ρ) (r : Rule)
    (steps : List (Connective × Node)) :
    (r.withConditions steps).name = r.name ∧
      (Settled (e.evaluate (r.root.nested steps) record).2.errors →
        e.evaluate (r.withConditions steps).root record = e.evaluate (r.root.nested steps) record) := by
  refine ⟨withConditions_name r steps, fun hs => ?_⟩
  exact (withConditions_standsFor e record (fun _ _ _ => rfl) steps).evaluate e record hs

/-- A saved filter with one part. -/
def bootRule : Rule := .named "boot rule" (.expression .and false (.search "boot") [])

/-- An alternative, and two further conditions. -/
def threeConditions : List (Connective × Node) :=
  [(.or, .alias "gone"), (.and, .search "late"), (.and, .alias "lost")]

/-- An evaluator with the five levels that the nested filter takes, for records that are texts. -/
def fiveLevels : Evaluator String where
  resolver := ⟨fun _ _ => none, id⟩
  registry := .empty
  maxDepth := 5

/-- The first condition joins the lone part, the second one keeps the alternative as a group, and the third
one joins the second. -/
theorem evaluate_withConditions_boot :
    (bootRule.withConditions threeConditions).name = "boot_rule" ∧
      (bootRule.withConditions threeConditions).root =
        .expression .and false (.expression .or false (.search "boot") [.alias "gone"])
          [.search "late", .alias "lost"] ∧
      Settled (fiveLevels.evaluate (bootRule.root.nested threeConditions) "late boot").2.errors ∧
      fiveLevels.evaluate (bootRule.withConditions threeConditions).root "late boot" =
        (false, { errors := [.aliasNotFound "lost"] }) := by
  have hname : bootRule.name = "boot_rule" := by cbv
  have hnested : fiveLevels.evaluate (bootRule.root.nested threeConditions) "late boot" =
      (false, { errors := [.aliasNotFound "lost"] }) := by cbv
  have hsettled : Settled (fiveLevels.evaluate (bootRule.root.nested threeConditions) "late boot").2.errors := by
    rw [hnested]
    simp [Settled, EvalError.isDepth]
  obtain ⟨hsame, hevaluate⟩ := evaluate_withConditions fiveLevels "late boot" bootRule threeConditions
  exact ⟨hsame.trans hname, rfl, hsettled, (hevaluate hsettled).trans hnested⟩

end LogQuery.Filter
