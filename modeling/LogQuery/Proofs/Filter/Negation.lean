import LogQuery.Proofs.Filter.Outcome
import Mathlib.Algebra.Ring.Parity

/-!
# Proofs.Filter.Negation — filters that are negated many times

A negation turns a plain expression around where it stands and puts every other filter one level lower,
so that the trees for `k` and for `k + 1` negations differ in their shape and in the levels they take.
As long as the limit on levels is not met, they differ in their verdicts only.

* `outcome_not_of_settled`: one negation turns the verdict around and leaves the errors as they are.
* `evaluate_not_iterate`: the verdict under `k` negations depends on whether `k` is odd, and all that is
  recorded is what the filter itself records.
-/

namespace LogQuery.Filter

variable {ρ : Type} (e : Evaluator ρ) (record : ρ)

/-- A negation that is evaluated below the limit has the opposite verdict, with as many levels. -/
theorem outcome_not_of_settled {levels : ℕ} {trail : List String} {n : Node}
    (h : Settled (outcome e record levels trail n.not).2) :
    outcome e record levels trail n.not =
      (!(outcome e record levels trail n).1, (outcome e record levels trail n).2) := by
  cases levels with
  | zero => exact Bool.noConfusion (h (.depthExceeded e.limit) List.mem_cons_self)
  | succ levels =>
    -- a filter that is wrapped had one level less, which it did not need
    have hwrap : n.not = .expression .and true n [] → outcome e record (levels + 1) trail n.not =
        (!(outcome e record (levels + 1) trail n).1, (outcome e record (levels + 1) trail n).2) := by
      intro hnot
      rw [hnot, outcome_lone] at h
      rw [hnot, outcome_lone, outcome_succ e record levels trail n h, Bool.bne_true]
    cases n with
    | expression op negated first rest =>
      cases negated with
      | true => exact hwrap rfl
      | false => simp only [Node.not, outcome, Bool.bne_true, Bool.bne_false]
    | _ => exact hwrap rfl

theorem outcome_not_iterate (levels : ℕ) (trail : List String) (n : Node) (k : ℕ)
    (h : Settled (outcome e record levels trail (Node.not^[k] n)).2) :
    outcome e record levels trail (Node.not^[k] n) =
      ((outcome e record levels trail n).1 != decide (Odd k), (outcome e record levels trail n).2) := by
  induction k with
  | zero => simp
  | succ k ih =>
    rw [Function.iterate_succ_apply'] at h ⊢
    have hnot := outcome_not_of_settled e record h
    rw [hnot] at h
    rw [hnot, ih h]
    by_cases hk : Odd k
    · simp [hk, Nat.odd_add_one]
    · simp [hk, Nat.odd_add_one]

/-- **Negations count by their number.** A filter that is negated `k` times, and evaluated without meeting
the limit on levels, has the verdict of the filter itself for an even `k` and the opposite verdict for an
odd `k`. What is recorded is the same, error by error. -/
theorem evaluate_not_iterate (n : Node) (k : ℕ) (h : Settled (e.evaluate (Node.not^[k] n) record).2.errors) :
    (e.evaluate (Node.not^[k] n) record).1 = ((e.evaluate n record).1 != decide (Odd k)) ∧
      (e.evaluate (Node.not^[k] n) record).2 = (e.evaluate n record).2 := by
  obtain ⟨hsettled, -, -⟩ := evaluate_of_settled e record h
  have houtcome := outcome_not_iterate e record e.limit [] n k hsettled
  rw [evaluate_eq_outcome, evaluate_eq_outcome, houtcome]
  exact ⟨rfl, rfl⟩

/-- An evaluator with four levels, for records without fields. -/
def fourLevels : Evaluator Unit where
  resolver := ⟨fun _ _ => none, fun _ => "boot"⟩
  registry := .empty
  maxDepth := 4

/-- An alternative of a missing field and of a text that is there. -/
def levelOrBoot : Node :=
  .expression .or false (.compare (.field ⟨"level", .text⟩) .equal (.literal (.text "error"))) [.search "BOOT"]

/-- The first negation takes no level, the two others take the two that are left. -/
theorem evaluate_not_iterate_thrice :
    Settled (fourLevels.evaluate (Node.not^[3] levelOrBoot) ()).2.errors ∧
      fourLevels.evaluate levelOrBoot () = (true, { errors := [.fieldNotFound "level"] }) ∧
      (fourLevels.evaluate (Node.not^[3] levelOrBoot) ()).1 = false ∧
      (fourLevels.evaluate (Node.not^[3] levelOrBoot) ()).2.errors = [.fieldNotFound "level"] := by
  have hself : fourLevels.evaluate levelOrBoot () = (true, { errors := [.fieldNotFound "level"] }) := by cbv
  have hsettled : Settled (fourLevels.evaluate (Node.not^[3] levelOrBoot) ()).2.errors := by
    have herrors : (fourLevels.evaluate (Node.not^[3] levelOrBoot) ()).2.errors = [.fieldNotFound "level"] := by
      cbv
    rw [herrors]
    simp [Settled, EvalError.isDepth]
  obtain ⟨hverdict, hcontext⟩ := evaluate_not_iterate fourLevels () levelOrBoot 3 hsettled
  rw [hself] at hverdict hcontext
  exact ⟨hsettled, hself, hverdict, congrArg Context.errors hcontext⟩

end LogQuery.Filter
