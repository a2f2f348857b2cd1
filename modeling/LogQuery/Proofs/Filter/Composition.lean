import LogQuery.Proofs.Filter.Outcome

/-!
# Proofs.Filter.Composition — an expression is the sum of its parts

All parts of an expression share one context: errors, the trail of names and the depth. What a part
gives still depends on its place alone, on the trail and the depth there, and not on what its siblings
recorded. So an expression is put together from its parts, each visited by itself.

* `Evaluator.alone`: the verdict and the errors of a filter that is visited with no errors before it.
* `limitOnce_flatMap`: the limit on levels is reported once for all parts together.
* `chain_outcome`: a chain has the verdict of its connective, and the errors of the parts up to the
  first that decides it.
* `visit_expression`: the visit of an expression is put together from visits of its parts.
-/

namespace LogQuery.Filter

/-! ## The limit on levels over several parts -/

theorem limitOnce_append (met : Bool) (errs errs' : List EvalError) :
    limitOnce met (errs ++ errs') =
      limitOnce met errs ++ limitOnce (met || errs.any EvalError.isDepth) errs' := by
  induction errs generalizing met with
  | nil => simp [limitOnce]
  | cons err errs ih =>
    simp only [List.cons_append, limitOnce, List.any_cons]
    split_ifs with h
    · obtain ⟨rfl, -⟩ := Bool.and_eq_true_iff.mp h
      rw [ih, Bool.true_or, Bool.true_or]
    · rw [ih, List.cons_append, Bool.or_assoc]

/-- Leaving out further reports twice is the same as once. -/
theorem limitOnce_limitOnce (met met' : Bool) (errs : List EvalError) (h : met' = true → met = true) :
    limitOnce met (limitOnce met' errs) = limitOnce met errs := by
  induction errs generalizing met met' with
  | nil => rfl
  | cons err errs ih =>
    cases hdepth : err.isDepth with
    | false =>
      simp only [limitOnce, hdepth, Bool.and_false, Bool.or_false, Bool.false_eq_true, if_false]
      rw [ih met met' h]
    | true =>
      cases met' with
      | true =>
        obtain rfl := h rfl
        simp only [limitOnce, hdepth, Bool.and_self, if_true]
        exact ih true true h
      | false =>
        cases met with
        | true =>
          simp only [limitOnce, hdepth, Bool.false_and, Bool.and_self, Bool.false_eq_true, if_false, if_true,
            Bool.false_or]
          exact ih true true fun _ => rfl
        | false =>
          simp only [limitOnce, hdepth, Bool.false_and, Bool.false_eq_true, if_false, Bool.false_or]
          rw [ih true true fun _ => rfl]

/-- It does not matter whether the parts already leave out further reports of their own. -/
theorem limitOnce_flatMap {α : Type} (f : α → List EvalError) (met : Bool) (parts : List α) :
    limitOnce met (parts.flatMap fun a => limitOnce false (f a)) = limitOnce met (parts.flatMap f) := by
  induction parts generalizing met with
  | nil => rfl
  | cons a parts ih =>
    rw [List.flatMap_cons, List.flatMap_cons, limitOnce_append, limitOnce_append,
      limitOnce_limitOnce met false (f a) fun h => Bool.noConfusion h, limitOnce_any, ih]

/-! ## Chains -/

/-- What a connective makes of the verdicts of all parts. -/
def Connective.verdict : Connective → List Bool → Bool
  | .and, verdicts => verdicts.all id
  | .or, verdicts => verdicts.any id

/-- The verdict of a part that decides the chain: a false one for `and`, a true one for `or`. -/
def Connective.decides : Connective → Bool → Bool
  | .and, verdict => !verdict
  | .or, verdict => verdict

/-- The parts up to the first that decides the chain, which is among them; all parts if none does. -/
def upToDecision (op : Connective) (verdict : Node → Bool) (parts : List Node) : List Node :=
  parts.take (parts.findIdx (fun n => op.decides (verdict n)) + 1)

theorem decides_eq (op : Connective) (verdict : Bool) :
    op.decides verdict = decide (verdict = decide (op = .or)) := by
  cases op <;> cases verdict <;> rfl

theorem verdict_cons_of_decides {op : Connective} {verdict : Bool} (h : op.decides verdict = true)
    (verdicts : List Bool) : op.verdict (verdict :: verdicts) = verdict := by
  cases op with
  | and =>
    obtain rfl : verdict = false := by simpa [Connective.decides] using h
    rfl
  | or =>
    obtain rfl : verdict = true := h
    rfl

theorem verdict_cons_of_not_decides {op : Connective} {verdict : Bool} (h : op.decides verdict = false)
    (verdicts : List Bool) : op.verdict (verdict :: verdicts) = op.verdict verdicts := by
  cases op with
  | and =>
    obtain rfl : verdict = true := by simpa [Connective.decides] using h
    rfl
  | or =>
    obtain rfl : verdict = false := h
    rfl

theorem verdict_singleton (op : Connective) (verdict : Bool) : op.verdict [verdict] = verdict := by
  cases op <;> cases verdict <;> rfl

/-- **A chain is the sum of its parts**, each judged by itself. -/
theorem chain_outcome (judge : Node → Outcome) (op : Connective) (first : Node) (rest : List Node) :
    (restOutcome judge op (judge first).1 rest).1 = op.verdict ((first :: rest).map fun n => (judge n).1) ∧
      (judge first).2 ++ (restOutcome judge op (judge first).1 rest).2 =
        (upToDecision op (fun n => (judge n).1) (first :: rest)).flatMap fun n => (judge n).2 := by
  induction rest generalizing first with
  | nil =>
    refine ⟨(verdict_singleton op _).symm, ?_⟩
    cases hfirst : op.decides (judge first).1 <;>
      simp [restOutcome, upToDecision, List.findIdx_cons, hfirst]
  | cons node nodes ih =>
    obtain ⟨hverdict, herrors⟩ := ih node
    cases hfirst : op.decides (judge first).1 with
    | true =>
      have hdecided : (judge first).1 = decide (op = .or) := by simpa [decides_eq] using hfirst
      rw [restOutcome, if_pos hdecided, List.map_cons, verdict_cons_of_decides hfirst]
      simp [upToDecision, List.findIdx_cons, hfirst]
    | false =>
      have hopen : ¬ (judge first).1 = decide (op = .or) := by simpa [decides_eq] using hfirst
      rw [restOutcome, if_neg hopen, List.map_cons, verdict_cons_of_not_decides hfirst]
      refine ⟨hverdict, ?_⟩
      show (judge first).2 ++ ((judge node).2 ++ (restOutcome judge op (judge node).1 nodes).2) = _
      rw [herrors]
      simp [upToDecision, List.findIdx_cons, hfirst]

/-! ## Expressions -/

section

variable {ρ : Type} (e : Evaluator ρ) (record : ρ)

/-- The verdict and the errors of a filter that is visited with a trail and at a depth, with no errors
before it. -/
def Evaluator.alone (trail : List String) (depth : ℕ) (n : Node) : Outcome :=
  let (verdict, c) := e.visit record (e.limit - depth) n { trail := trail, depth := depth }
  (verdict, c.errors)

theorem alone_eq (trail : List String) (depth : ℕ) (n : Node) :
    e.alone record trail depth n = ((outcome e record (e.limit - depth) trail n).1,
      limitOnce false (outcome e record (e.limit - depth) trail n).2) := by
  simp only [Evaluator.alone, visit_eq_outcome e record _ n, addErrors_errors]
  rfl

/-- **Evaluation is compositional.** An expression that is visited below the limit has the verdict that
its connective makes of the verdicts of its parts, each visited alone one level below with the same
trail, and its own negation. It adds the errors of the parts up to the first that decides it, in order,
with the limit on levels reported once overall, and leaves the trail and the depth as they were. What
was recorded before does not change the verdict. -/
theorem visit_expression (op : Connective) (negated : Bool) (first : Node) (rest : List Node) {c : Context}
    (hdepth : c.depth < e.limit) :
    let alone := e.alone record c.trail (c.depth + 1)
    let seen := upToDecision op (fun n => (alone n).1) (first :: rest)
    let whole := Node.expression op negated first rest
    e.visit record (e.limit - c.depth) whole c =
        (op.verdict ((first :: rest).map fun n => (alone n).1) != negated,
          { c with errors := c.errors ++
                    limitOnce (c.errors.any EvalError.isDepth) (seen.flatMap fun n => (alone n).2) }) ∧
      ∀ errs, (e.visit record (e.limit - c.depth) whole { c with errors := errs }).1 =
        (e.visit record (e.limit - c.depth) whole c).1 := by
  obtain ⟨levels, hlevels⟩ : ∃ levels, e.limit - c.depth = levels + 1 := ⟨e.limit - c.depth - 1, by omega⟩
  have hbelow : e.limit - (c.depth + 1) = levels := by omega
  obtain ⟨hverdict, herrors⟩ := chain_outcome (outcome e record levels c.trail) op first rest
  intro alone seen whole
  refine ⟨?_, fun errs => ?_⟩
  · simp only [alone, seen, whole, alone_eq, hbelow, limitOnce_flatMap]
    rw [visit_eq_outcome, hlevels, Context.addErrors_eq, addErrors_errors, ← herrors, ← hverdict]
    rfl
  · rw [visit_eq_outcome, visit_eq_outcome]

end

/-- An evaluator with two levels, without fields and without saved filters. -/
def twoLevels : Evaluator Unit where
  resolver := ⟨fun _ _ => none, fun _ => "boot"⟩
  registry := .empty
  maxDepth := 2

/-- A place at the root, where a field was missing before. -/
def afterError : Context where
  errors := [.fieldNotFound "level"]

/-- Parts of which the first and the third are too deep, and the fourth decides an alternative. -/
def fiveParts : List Node :=
  [.expression .and false (.search "boot") [], .alias "gone", .expression .or false (.alias "gone") [],
    .search "BOOT", .alias "lost"]

theorem visit_expression_twoLevels :
    afterError.depth < twoLevels.limit ∧
      twoLevels.visit () (twoLevels.limit - afterError.depth) (.expression .or true (.alias "new") fiveParts)
          afterError =
        (false, ⟨[.fieldNotFound "level", .aliasNotFound "new", .depthExceeded 2, .aliasNotFound "gone"],
          [], 0⟩) := by
  refine ⟨by decide, ?_⟩
  rw [(visit_expression twoLevels () .or true (.alias "new") fiveParts (c := afterError) (by decide)).1]
  cbv

end LogQuery.Filter
