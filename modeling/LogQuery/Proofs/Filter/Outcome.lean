import LogQuery.Filter.Evaluate
import LogQuery.Proofs.Filter.Mismatch
import Mathlib

/-!
# Proofs.Filter.Outcome — evaluation without a context

The evaluator carries a context. What it does to the context is to add errors, the limit on levels
being reported once; verdict and errors depend on the trail alone. `outcome` gives both as a value.

* `visit_eq_outcome`: a visit gives the verdict of the outcome and records its errors. So it leaves the trail
  as it was (`Records.trail`), and every recorded error is one of the outcome (`mem_outcome`).
* `visitAt_eq`: counting the levels left comes to the same as comparing the depth with the limit.
* `limitOnce`: a list of errors in which the limit is reported once; `Settled`: the limit was not met.
* `Slack`: the errors for which another trail makes no difference; `outcome_repeats`: then outcomes are
  repeated with more levels and on the other trail.
-/

namespace LogQuery.Filter

/-- A way to visit the parts of a filter. -/
abbrev Visit := Node → Context → Bool × Context

/-- A verdict and the errors on the way to it. -/
abbrev Outcome := Bool × List EvalError

/-- The outcome of a filter while the saved filters of a trail are followed. -/
abbrev Judge := List String → Node → Outcome

variable {ρ : Type} (e : Evaluator ρ) (record : ρ)

/-! ## Outcomes -/

/-- The outcome of a saved filter by name, with `judge` for its body. -/
def followOutcome (judge : Judge) (trail : List String) (name : String) :
    Option Bool × List EvalError :=
  match e.registry.lookup name with
  | none => (none, [.aliasNotFound name])
  | some rule =>
    let key := Text.lower name
    if key ∈ trail then (none, [.cyclicAlias (trail ++ [key])])
    else
      let o := judge (trail ++ [key]) rule.root
      (some o.1, o.2)

/-- A side of a comparison and the errors of looking it up. -/
def sideOutcome (judge : Judge) (trail : List String) : Operand → Option Side × List EvalError
  | .literal l => (some (.literal l), [])
  | .field f =>
    match e.resolver.resolve record f.name with
    | some field => (some (.field f.name field), [])
    | none => (none, [.fieldNotFound f.name])
  | .rule name =>
    let o := followOutcome e judge trail name
    (o.1.map fun verdict => .field name ⟨.boolean verdict, .boolean⟩, o.2)

/-- The outcome of comparing two sides that were found. -/
def compareOutcome (op : Comparator) (left right : Side) : Outcome :=
  match compare op left right with
  | .ok verdict => (verdict, [])
  | .error err => (false, [err])

/-- The outcome of a comparison. -/
def comparisonOutcome (judge : Judge) (trail : List String) (cmp : Comparison) : Outcome :=
  match sideOutcome e record judge trail cmp.left with
  | (none, errs) => (false, errs)
  | (some left, errs) =>
    match sideOutcome e record judge trail cmp.right with
    | (none, errs') => (false, errs ++ errs')
    | (some right, errs') =>
      let o := compareOutcome cmp.op left right
      (o.1, errs ++ errs' ++ o.2)

/-- The outcome of the further parts of an expression. -/
def restOutcome (judge : Node → Outcome) (op : Connective) : Bool → List Node → Outcome
  | verdict, [] => (verdict, [])
  | verdict, node :: nodes =>
    if verdict = decide (op = .or) then (verdict, [])
    else
      let o := judge node
      let o' := restOutcome judge op o.1 nodes
      (o'.1, o.2 ++ o'.2)

/-- The outcome of a filter with a number of levels left. -/
def outcome : ℕ → Judge
  | 0, _, _ => (false, [.depthExceeded e.limit])
  | levels + 1, trail, node =>
    match node with
    | .expression op negated first rest =>
      let o := outcome levels trail first
      let o' := restOutcome (outcome levels trail) op o.1 rest
      (o'.1 != negated, o.2 ++ o'.2)
    | .comparison cmp => comparisonOutcome e record (outcome levels) trail cmp
    | .search term => (e.searchText record term, [])
    | .alias name =>
      let o := followOutcome e (outcome levels) trail name
      (o.1.getD false, o.2)

/-! ## Where errors come from -/

/-- What a comparison reports was reported for one of its sides, or its sides cannot be compared. -/
theorem mem_comparisonOutcome {judge : Judge} {trail : List String} {cmp : Comparison} {err : EvalError}
    (h : err ∈ (comparisonOutcome e record judge trail cmp).2) :
    err ∈ (sideOutcome e record judge trail cmp.left).2 ∨ err ∈ (sideOutcome e record judge trail cmp.right).2 ∨
      ∃ reason, err = .typeMismatch reason := by
  unfold comparisonOutcome at h
  split at h
  · rename_i hleft
    exact .inl (hleft ▸ h)
  · rename_i left errs hleft
    rw [hleft]
    split at h
    · rename_i hright
      rw [hright]
      exact (List.mem_append.mp h).imp_right .inl
    · rename_i right errs' hright
      rw [hright]
      rcases List.mem_append.mp h with h | h
      · exact (List.mem_append.mp h).imp_right .inl
      · unfold compareOutcome at h
        split at h
        · exact absurd h List.not_mem_nil
        · rename_i err' hcompare
          obtain rfl := List.mem_singleton.mp h
          exact .inr (.inr (compare_mismatch cmp.op left right err hcompare))

theorem mem_restOutcome {judge : Node → Outcome} {op : Connective} {verdict : Bool} {nodes : List Node}
    {err : EvalError} (h : err ∈ (restOutcome judge op verdict nodes).2) :
    ∃ node ∈ nodes, err ∈ (judge node).2 := by
  induction nodes generalizing verdict with
  | nil => exact absurd h List.not_mem_nil
  | cons node nodes ih =>
    unfold restOutcome at h
    split_ifs at h
    · exact absurd h List.not_mem_nil
    · rcases List.mem_append.mp h with h | h
      · exact ⟨node, List.mem_cons_self, h⟩
      · obtain ⟨node', hmem, herr⟩ := ih h
        exact ⟨node', List.mem_cons_of_mem _ hmem, herr⟩

/-! ## A visit records its outcome -/

/-- Record errors in order. That the limit was met is recorded once. -/
def Context.addErrors (c : Context) (errs : List EvalError) : Context :=
  errs.foldl (fun c err => if err.isDepth && c.errors.any EvalError.isDepth then c else c.addError err) c

theorem Context.addErrors_append (c : Context) (errs errs' : List EvalError) :
    c.addErrors (errs ++ errs') = (c.addErrors errs).addErrors errs' := List.foldl_append

theorem Context.addErrors_singleton (c : Context) {err : EvalError} (h : err.isDepth = false) :
    c.addErrors [err] = c.addError err := by
  simp [Context.addErrors, h]

/-- Recording leaves everything but the errors alone, and the errors do not depend on the rest. -/
theorem Context.addErrors_eq (c : Context) (errs : List EvalError) :
    c.addErrors errs = { c with errors := (Context.addErrors { errors := c.errors } errs).errors } := by
  induction errs generalizing c with
  | nil => rfl
  | cons err errs ih =>
    show Context.addErrors (if _ then c else c.addError err) errs =
      { c with errors := (Context.addErrors (if _ then _ else Context.addError _ err) errs).errors }
    rw [ih]
    dsimp only
    split_ifs <;> rfl

@[simp] theorem Context.addErrors_trail (c : Context) (errs : List EvalError) : (c.addErrors errs).trail = c.trail := by
  rw [Context.addErrors_eq]

@[simp] theorem Context.addErrors_depth (c : Context) (errs : List EvalError) : (c.addErrors errs).depth = c.depth := by
  rw [Context.addErrors_eq]

/-- A visit gives the verdict of the outcome, and the context with its errors. -/
def Records (visit : Visit) (judge : Judge) : Prop :=
  ∀ n c, visit n c = ((judge c.trail n).1, c.addErrors (judge c.trail n).2)

section

variable {visit : Visit} {judge : Judge} (hv : Records visit judge)
include hv

theorem follow_eq_outcome (name : String) (c : Context) :
    e.follow visit name c = ((followOutcome e judge c.trail name).1,
      c.addErrors (followOutcome e judge c.trail name).2) := by
  have hone : ∀ err : EvalError, err.isDepth = false → c.addError err = c.addErrors [err] :=
    fun err h => (c.addErrors_singleton h).symm
  unfold Evaluator.follow followOutcome
  cases e.registry.lookup name with
  | none => simp only [hone (.aliasNotFound name) rfl]
  | some rule =>
    dsimp only
    split_ifs
    · simp only [hone (.cyclicAlias _) rfl]
    · rw [hv, Context.addErrors_eq (c.enter _), Context.addErrors_eq c]
      simp only [Context.leave, Context.enter, List.dropLast_concat]

theorem side_eq_outcome (o : Operand) (c : Context) :
    e.side visit record o c = ((sideOutcome e record judge c.trail o).1,
      c.addErrors (sideOutcome e record judge c.trail o).2) := by
  cases o with
  | literal l => rfl
  | field f =>
    simp only [Evaluator.side, sideOutcome]
    cases e.resolver.resolve record f.name with
    | some field => rfl
    | none => exact congrArg (Prod.mk none) (Context.addErrors_singleton c rfl).symm
  | rule name => simp only [Evaluator.side, sideOutcome, follow_eq_outcome e hv]

/-- A visit leaves all saved filters that it follows. -/
theorem Records.trail (n : Node) (c : Context) : (visit n c).2.trail = c.trail := by
  rw [hv n c, Context.addErrors_trail]

theorem Records.side_trail (o : Operand) (c : Context) : (e.side visit record o c).2.trail = c.trail := by
  rw [side_eq_outcome e record hv, Context.addErrors_trail]

theorem visitComparison_eq_outcome (cmp : Comparison) (c : Context) :
    e.visitComparison visit record cmp c = ((comparisonOutcome e record judge c.trail cmp).1,
      c.addErrors (comparisonOutcome e record judge c.trail cmp).2) := by
  unfold Evaluator.visitComparison comparisonOutcome
  rw [side_eq_outcome e record hv]
  cases hl : sideOutcome e record judge c.trail cmp.left with
  | mk left errs =>
    cases left with
    | none => rfl
    | some left =>
      simp only [side_eq_outcome e record hv, Context.addErrors_trail]
      cases hr : sideOutcome e record judge c.trail cmp.right with
      | mk right errs' =>
        cases right with
        | none => simp only [Context.addErrors_append]
        | some right =>
          simp only [compareOutcome]
          cases hc : compare cmp.op left right with
          | ok verdict => simp only [Context.addErrors_append, List.append_nil]
          | error err =>
            obtain ⟨reason, rfl⟩ := compare_mismatch cmp.op left right err hc
            have hlast : ∀ c : Context, c.addErrors [.typeMismatch reason] = c.addError (.typeMismatch reason) :=
              fun c => Context.addErrors_singleton c rfl
            simp only [Context.addErrors_append, hlast]

theorem visitRest_eq_outcome (op : Connective) (verdict : Bool) (nodes : List Node) (c : Context) :
    Evaluator.visitRest visit op verdict nodes c =
      ((restOutcome (judge c.trail) op verdict nodes).1,
        c.addErrors (restOutcome (judge c.trail) op verdict nodes).2) := by
  induction nodes generalizing verdict c with
  | nil => rfl
  | cons node nodes ih =>
    unfold Evaluator.visitRest restOutcome
    split_ifs
    · rfl
    · simp only [hv node c, ih, Context.addErrors_trail, Context.addErrors_append]

end

/-- **A visit records its outcome.** -/
theorem visit_eq_outcome (levels : ℕ) : Records (e.visit record levels) (outcome e record levels) := by
  induction levels with
  | zero =>
    intro n c
    show (false, c.exceedDepth e.limit) = (false, c.addErrors [.depthExceeded e.limit])
    simp [Context.exceedDepth, Context.addErrors, EvalError.isDepth]
  | succ levels ih =>
    intro n c
    have hascend : ∀ errs, (c.descend.addErrors errs).ascend = c.addErrors errs := by
      intro errs
      rw [Context.addErrors_eq, Context.addErrors_eq c]
      simp only [Context.descend, Context.ascend, Nat.add_sub_cancel]
    cases n with
    | expression op negated first rest =>
      simp only [Evaluator.visit, Evaluator.visitParts, outcome, ih first, visitRest_eq_outcome ih,
        Context.addErrors_trail, ← Context.addErrors_append, hascend]
      rfl
    | comparison cmp =>
      simp only [Evaluator.visit, Evaluator.visitParts, outcome, visitComparison_eq_outcome e record ih, hascend]
      rfl
    | search term => rfl
    | «alias» name =>
      simp only [Evaluator.visit, Evaluator.visitParts, outcome, follow_eq_outcome e ih, hascend]
      rfl

/-! ## The check of the depth -/

section

variable {visit visit' : Visit} {judge : Judge} (hv : Records visit judge) {depth : ℕ}
  (hsame : ∀ n c, c.depth = depth → visit' n c = visit n c)

include hsame in
theorem follow_congr (name : String) {c : Context} (hc : c.depth = depth) :
    e.follow visit' name c = e.follow visit name c := by
  unfold Evaluator.follow
  cases e.registry.lookup name with
  | none => rfl
  | some rule =>
    dsimp only
    split_ifs
    · rfl
    · rw [hsame rule.root (c.enter _) hc]

include hsame in
theorem side_congr (o : Operand) {c : Context} (hc : c.depth = depth) :
    e.side visit' record o c = e.side visit record o c := by
  cases o with
  | literal l => rfl
  | field f => rfl
  | rule name => simp only [Evaluator.side, follow_congr e hsame name hc]

include hv hsame

theorem visitComparison_congr (cmp : Comparison) {c : Context} (hc : c.depth = depth) :
    e.visitComparison visit' record cmp c = e.visitComparison visit record cmp c := by
  have hleft : (e.side visit record cmp.left c).2.depth = depth := by
    rw [side_eq_outcome e record hv, Context.addErrors_depth, hc]
  unfold Evaluator.visitComparison
  rw [side_congr e record hsame cmp.left hc]
  cases hside : e.side visit record cmp.left c with
  | mk left c' =>
    rw [hside] at hleft
    cases left with
    | none => rfl
    | some left => simp only [side_congr e record hsame cmp.right hleft]

theorem visitRest_congr (op : Connective) (verdict : Bool) (nodes : List Node) {c : Context} (hc : c.depth = depth) :
    Evaluator.visitRest visit' op verdict nodes c = Evaluator.visitRest visit op verdict nodes c := by
  induction nodes generalizing verdict c with
  | nil => rfl
  | cons node nodes ih =>
    have hnode : (visit node c).2.depth = depth := by rw [hv node c, Context.addErrors_depth, hc]
    unfold Evaluator.visitRest
    split_ifs
    · rfl
    · simp only [hsame node c hc, ih _ hnode]

/-- The parts of a filter are visited one level below it. -/
theorem visitParts_congr (n : Node) {c : Context} (hc : c.depth + 1 = depth) :
    e.visitParts visit' record n c = e.visitParts visit record n c := by
  have hdescend : c.descend.depth = depth := hc
  cases n with
  | expression op negated first rest =>
    have hfirst : (visit first c.descend).2.depth = depth := by
      rw [hv first c.descend, Context.addErrors_depth, hdescend]
    simp only [Evaluator.visitParts, hsame first c.descend hdescend, visitRest_congr hv hsame op _ rest hfirst]
  | comparison cmp => simp only [Evaluator.visitParts, visitComparison_congr e record hv hsame cmp hdescend]
  | search term => rfl
  | «alias» name => simp only [Evaluator.visitParts, follow_congr e hsame name hdescend]

end

/-- Visit a filter at a point of an evaluation, with the levels between its depth and the limit. -/
def Evaluator.visitAt : Visit := fun n c => e.visit record (e.limit - c.depth) n c

/-- An evaluation is a visit at the start. -/
theorem evaluate_eq_visitAt (n : Node) : e.evaluate n record = e.visitAt record n {} := rfl

/-- **Counting the levels left is checking the depth.** At every point the depth is compared with the limit, and
below the limit the parts are visited in the same way. -/
theorem visitAt_eq (n : Node) (c : Context) :
    e.visitAt record n c =
      if e.limit ≤ c.depth then (false, c.exceedDepth e.limit) else e.visitParts (e.visitAt record) record n c := by
  split_ifs with hmet
  · rw [Evaluator.visitAt, Nat.sub_eq_zero_of_le hmet]
    rfl
  · obtain ⟨levels, hlevels⟩ := Nat.exists_eq_add_of_lt (not_le.mp hmet)
    have hleft : e.limit - c.depth = levels + 1 := by omega
    -- one level below, what is left is one level less
    have hbelow : ∀ n c', c'.depth = c.depth + 1 → e.visitAt record n c' = e.visit record levels n c' := by
      intro n c' hc'
      rw [Evaluator.visitAt, hc', ← Nat.sub_sub, hleft, Nat.add_sub_cancel]
    rw [visitParts_congr e record (visit_eq_outcome e record levels) hbelow n rfl, Evaluator.visitAt, hleft]
    rfl

/-! ## The limit on levels -/

/-- The limit on levels was not met. -/
def Settled (errs : List EvalError) : Prop := ∀ err ∈ errs, err.isDepth = false

theorem settled_append {errs errs' : List EvalError} :
    Settled (errs ++ errs') ↔ Settled errs ∧ Settled errs' := List.forall_mem_append

theorem settled_iff_any {errs : List EvalError} : Settled errs ↔ errs.any EvalError.isDepth = false := by
  simp [Settled, List.any_eq_false]

/-- The errors without further reports of the limit on levels; `met` tells whether there was one. -/
def limitOnce : Bool → List EvalError → List EvalError
  | _, [] => []
  | met, err :: errs =>
    if met && err.isDepth then limitOnce met errs else err :: limitOnce (met || err.isDepth) errs

theorem addErrors_errors (c : Context) (errs : List EvalError) :
    (c.addErrors errs).errors = c.errors ++ limitOnce (c.errors.any EvalError.isDepth) errs := by
  induction errs generalizing c with
  | nil => exact (List.append_nil c.errors).symm
  | cons err errs ih =>
    have hstep : c.addErrors (err :: errs) = Context.addErrors
        (if err.isDepth && c.errors.any EvalError.isDepth then c else c.addError err) errs := rfl
    rw [hstep, ih, limitOnce, Bool.and_comm]
    split_ifs with hmet
    · rfl
    · simp only [Context.addError, List.any_append, List.any_cons, List.any_nil, Bool.or_false,
        List.append_assoc, List.singleton_append]

theorem mem_of_mem_limitOnce {met : Bool} {errs : List EvalError} {err : EvalError}
    (h : err ∈ limitOnce met errs) : err ∈ errs := by
  induction errs generalizing met with
  | nil => exact h
  | cons err' errs ih =>
    unfold limitOnce at h
    split_ifs at h
    · exact List.mem_cons_of_mem _ (ih h)
    · rcases List.mem_cons.mp h with rfl | h
      exacts [List.mem_cons_self, List.mem_cons_of_mem _ (ih h)]

/-- Without a report of the limit nothing is left out. -/
theorem limitOnce_of_settled (met : Bool) {errs : List EvalError} (h : Settled errs) : limitOnce met errs = errs := by
  induction errs generalizing met with
  | nil => rfl
  | cons err errs ih =>
    have herr : err.isDepth = false := h err List.mem_cons_self
    rw [limitOnce, herr, Bool.and_false, if_neg Bool.false_ne_true,
      ih _ fun err' h' => h err' (List.mem_cons_of_mem err h')]

theorem limitOnce_any (errs : List EvalError) :
    (limitOnce false errs).any EvalError.isDepth = errs.any EvalError.isDepth := by
  induction errs with
  | nil => rfl
  | cons err errs ih =>
    simp only [limitOnce, Bool.false_and, Bool.false_eq_true, if_false, Bool.false_or, List.any_cons]
    cases hdepth : err.isDepth with
    | false => rw [Bool.false_or, Bool.false_or, ih]
    | true => rw [Bool.true_or, Bool.true_or]

/-- An evaluation records the outcome of the whole filter. -/
theorem evaluate_eq_outcome (n : Node) : e.evaluate n record = ((outcome e record e.limit [] n).1,
    ({} : Context).addErrors (outcome e record e.limit [] n).2) := visit_eq_outcome e record e.limit n {}

/-- The errors of an evaluation are those of the outcome, the limit on levels once. -/
theorem evaluate_errors (n : Node) :
    (e.evaluate n record).2.errors = limitOnce false (outcome e record e.limit [] n).2 := by
  rw [evaluate_eq_outcome, addErrors_errors]
  rfl

/-- Every error of an evaluation is one of the outcome. -/
theorem mem_outcome {n : Node} {err : EvalError} (h : err ∈ (e.evaluate n record).2.errors) :
    err ∈ (outcome e record e.limit [] n).2 := by
  rw [evaluate_errors] at h
  exact mem_of_mem_limitOnce h

/-- An evaluation that does not meet the limit gives its outcome. -/
theorem evaluate_of_settled {n : Node} (h : Settled (e.evaluate n record).2.errors) :
    Settled (outcome e record e.limit [] n).2 ∧
      (e.evaluate n record).1 = (outcome e record e.limit [] n).1 ∧
      (e.evaluate n record).2.errors = (outcome e record e.limit [] n).2 := by
  rw [evaluate_errors] at h ⊢
  have hsettled : Settled (outcome e record e.limit [] n).2 := by
    rwa [settled_iff_any, limitOnce_any, ← settled_iff_any] at h
  refine ⟨hsettled, ?_, limitOnce_of_settled false hsettled⟩
  rw [evaluate_eq_outcome]

/-- With `judge'` a settled outcome of `judge` stays as it is. -/
def Refines (judge judge' : Judge) : Prop :=
  ∀ trail n, Settled (judge trail n).2 → judge' trail n = judge trail n

/-! ## Other limits and other trails -/

/-- The evaluator with another limit on levels. -/
def Evaluator.withLimit (maxDepth : ℕ) : Evaluator ρ := { e with maxDepth := maxDepth }

/-- Trails that are related by `T` make no difference where all errors satisfy `P`: the limit is not met,
the later trail is free of what the earlier one is free of, and a cycle is closed on equal trails only. -/
structure Slack (P : EvalError → Prop) (T : List String → List String → Prop) : Prop where
  settled : ∀ {err}, P err → err.isDepth = false
  enter : ∀ {trail trail'} (key), T trail trail' → T (trail ++ [key]) (trail' ++ [key])
  free : ∀ {trail trail' key}, T trail trail' → key ∉ trail → key ∉ trail'
  cycle : ∀ {trail trail' key}, T trail trail' → key ∈ trail → P (.cyclicAlias (trail ++ [key])) →
    trail' = trail

/-- Trails that are the same. -/
theorem slack_eq : Slack (fun err => err.isDepth = false) Eq where
  settled := id
  enter := fun key h => congrArg (· ++ [key]) h
  free := fun h hkey => h ▸ hkey
  cycle := fun h _ _ => h.symm

/-- On related trails `judge'` repeats each outcome of `judge` whose errors all satisfy `P`. -/
def Repeats (P : EvalError → Prop) (T : List String → List String → Prop) (judge judge' : Judge) : Prop :=
  ∀ trail trail' n, T trail trail' → (∀ err ∈ (judge trail n).2, P err) → judge' trail' n = judge trail n

section

variable {P : EvalError → Prop}

/-- The further parts may be others, if those repeat the outcomes. -/
theorem restOutcome_repeats {judge judge' : Node → Outcome} {op : Connective} {nodes nodes' : List Node}
    (hnodes : List.Forall₂ (fun n n' => (∀ err ∈ (judge n).2, P err) → judge' n' = judge n) nodes nodes')
    {verdict : Bool} (hP : ∀ err ∈ (restOutcome judge op verdict nodes).2, P err) :
    restOutcome judge' op verdict nodes' = restOutcome judge op verdict nodes := by
  induction hnodes generalizing verdict with
  | nil => rfl
  | cons hnode _ ih =>
    unfold restOutcome at hP ⊢
    split_ifs at hP ⊢
    · rfl
    · obtain ⟨hfirst, hrest⟩ := List.forall_mem_append.mp hP
      rw [hnode hfirst]
      simp only [ih hrest]

/-- The further parts are judged alike by judges that agree on each of them. -/
theorem restOutcome_congr {judge judge' : Node → Outcome} {op : Connective} {verdict : Bool} {nodes : List Node}
    (h : ∀ node ∈ nodes, judge' node = judge node) :
    restOutcome judge' op verdict nodes = restOutcome judge op verdict nodes :=
  restOutcome_repeats (P := fun _ => True) (List.forall₂_same.mpr fun node hnode _ => h node hnode) fun _ _ => trivial

variable {T : List String → List String → Prop} (hS : Slack P T) {judge judge' : Judge}
  (hj : Repeats P T judge judge') {trail trail' : List String} (ht : T trail trail')
include hS hj ht

theorem followOutcome_repeats {name : String} (hP : ∀ err ∈ (followOutcome e judge trail name).2, P err) :
    followOutcome e judge' trail' name = followOutcome e judge trail name := by
  unfold followOutcome at hP ⊢
  split
  · rfl
  · rename_i rule hrule
    simp only [hrule] at hP ⊢
    split_ifs at hP with hkey
    · rw [hS.cycle ht hkey (hP _ List.mem_cons_self), if_pos hkey, if_pos hkey]
    · rw [if_neg (hS.free ht hkey), if_neg hkey, hj _ _ _ (hS.enter _ ht) hP]

theorem sideOutcome_repeats {o : Operand} (hP : ∀ err ∈ (sideOutcome e record judge trail o).2, P err) :
    sideOutcome e record judge' trail' o = sideOutcome e record judge trail o := by
  cases o with
  | literal l => rfl
  | field f => rfl
  | rule name =>
    have hfollow : followOutcome e judge' trail' name = followOutcome e judge trail name :=
      followOutcome_repeats e hS hj ht hP
    simp only [sideOutcome, hfollow]

theorem comparisonOutcome_repeats {cmp : Comparison}
    (hP : ∀ err ∈ (comparisonOutcome e record judge trail cmp).2, P err) :
    comparisonOutcome e record judge' trail' cmp = comparisonOutcome e record judge trail cmp := by
  have hleft : ∀ err ∈ (sideOutcome e record judge trail cmp.left).2, P err := by
    unfold comparisonOutcome at hP
    split at hP
    · rename_i heq
      rwa [heq]
    · rename_i heq
      rw [heq]
      split at hP
      · exact (List.forall_mem_append.mp hP).1
      · exact (List.forall_mem_append.mp (List.forall_mem_append.mp hP).1).1
  unfold comparisonOutcome at hP ⊢
  rw [sideOutcome_repeats e record hS hj ht hleft]
  split
  · rfl
  · rename_i left errs heq
    simp only [heq] at hP
    have hright : ∀ err ∈ (sideOutcome e record judge trail cmp.right).2, P err := by
      split at hP
      · rename_i heq'
        rw [heq']
        exact (List.forall_mem_append.mp hP).2
      · rename_i heq'
        rw [heq']
        exact (List.forall_mem_append.mp (List.forall_mem_append.mp hP).1).2
    rw [sideOutcome_repeats e record hS hj ht hright]

end

/-- **With as many levels or more, and on a trail that makes no difference, outcomes are repeated.** The
limit itself is named by its own error only. -/
theorem outcome_repeats {P : EvalError → Prop} {T : List String → List String → Prop} (hS : Slack P T)
    (maxDepth : ℕ) {levels levels' : ℕ} (hle : levels ≤ levels') :
    Repeats P T (outcome e record levels) (outcome (e.withLimit maxDepth) record levels') := by
  induction levels generalizing levels' with
  | zero =>
    intro trail trail' n _ hP
    exact Bool.noConfusion (hS.settled (hP (.depthExceeded e.limit) List.mem_cons_self))
  | succ levels ih =>
    obtain ⟨levels', rfl⟩ : ∃ k, levels' = k + 1 := ⟨levels' - 1, by omega⟩
    have ih := ih (Nat.le_of_succ_le_succ hle)
    intro trail trail' n ht hP
    cases n with
    | expression op negated first rest =>
      rw [outcome] at hP
      obtain ⟨hfirst, hrest⟩ := List.forall_mem_append.mp hP
      have hnodes : List.Forall₂ (fun m m' => (∀ err ∈ (outcome e record levels trail m).2, P err) →
          outcome (e.withLimit maxDepth) record levels' trail' m' = outcome e record levels trail m) rest rest :=
        List.forall₂_same.mpr fun node _ => ih trail trail' node ht
      rw [outcome, outcome, ih trail trail' first ht hfirst]
      simp only [restOutcome_repeats hnodes hrest]
    | comparison cmp => exact comparisonOutcome_repeats e record hS ih ht hP
    | search term => rfl
    | «alias» name =>
      have hfollow : followOutcome e (outcome (e.withLimit maxDepth) record levels') trail' name =
          followOutcome e (outcome e record levels) trail name := followOutcome_repeats e hS ih ht hP
      show ((followOutcome e _ trail' name).1.getD false, (followOutcome e _ trail' name).2) = _
      rw [hfollow]
      rfl

/-- One level more makes no difference to an outcome that did not meet the limit. -/
theorem outcome_succ (levels : ℕ) : Refines (outcome e record levels) (outcome e record (levels + 1)) :=
  fun trail n h => outcome_repeats e record slack_eq e.maxDepth (Nat.le_succ levels) trail trail n rfl h

/-- A lone part decides an expression by itself, one level below it. -/
theorem outcome_lone (levels : ℕ) (trail : List String) (op : Connective) (negated : Bool) (n : Node) :
    outcome e record (levels + 1) trail (.expression op negated n []) =
      ((outcome e record levels trail n).1 != negated, (outcome e record levels trail n).2) := by
  simp only [outcome, restOutcome, List.append_nil]

end LogQuery.Filter
