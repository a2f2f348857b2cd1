import LogQuery.Proofs.Filter.Outcome
import LogQuery.Proofs.Filter.Reach

/-!
# Proofs.Filter.Dependence — evaluation stays inside the dependencies

Evaluation stops early and has a limit on levels, the walk over the dependencies has neither. Both
follow the same references: what evaluation reads or reports is reached from the filter, and what is
reached is found by the walk.

* `Explained`: where an error comes from; `outcome_explained`: every error of an outcome has such a source.
* `errors_found`: every missing field, missing name and cycle that evaluation records is found by the
  walk.
* `SameFields`: two records agree on the fields that are reached; `outcome_same`: then outcomes are equal.
* `evaluate_eq_of_fields`: evaluation depends on the fields found by the walk and on the full text.
-/

namespace LogQuery.Filter

variable {ρ : Type} (e : Evaluator ρ) (record : ρ)

/-! ## Errors are reached -/

/-- Where an error comes from: a reference that is reached from the filter, a comparison of values, or
the limit on levels. -/
inductive Explained (registry : Registry) (trail : List String) (n : Node) : EvalError → Prop where
  | field {trail' : List String} {name : String}
      (h : Reached registry trail n trail' (.field name)) : Explained registry trail n (.fieldNotFound name)
  | missing {trail' : List String} {name : String}
      (h : Reached registry trail n trail' (.rule name)) (hnone : registry.lookup name = none) :
      Explained registry trail n (.aliasNotFound name)
  | cycle {trail' : List String} {name : String}
      (h : Reached registry trail n trail' (.rule name)) (hmem : Text.lower name ∈ trail') :
      Explained registry trail n (.cyclicAlias (trail' ++ [Text.lower name]))
  | mismatch (reason : String) : Explained registry trail n (.typeMismatch reason)
  | depth (limit : ℕ) : Explained registry trail n (.depthExceeded limit)

theorem Explained.mono {registry : Registry} {trail : List String} {m n : Node} {err : EvalError}
    (hsub : ∀ ref ∈ m.references, ref ∈ n.references) (h : Explained registry trail m err) :
    Explained registry trail n err := by
  cases h with
  | field h => exact .field (h.mono hsub)
  | missing h hnone => exact .missing (h.mono hsub) hnone
  | cycle h hmem => exact .cycle (h.mono hsub) hmem
  | mismatch reason => exact .mismatch reason
  | depth limit => exact .depth limit

/-- What is reached from a saved filter is reached from a filter that refers to it. -/
theorem Explained.through {registry : Registry} {trail : List String} {n : Node} {name : String}
    {rule : Rule} {err : EvalError} (hname : .rule name ∈ n.references)
    (hnew : Text.lower name ∉ trail) (hrule : registry.lookup name = some rule)
    (h : Explained registry (trail ++ [Text.lower name]) rule.root err) :
    Explained registry trail n err := by
  cases h with
  | field h => exact .field (.through hname hnew hrule h)
  | missing h hnone => exact .missing (.through hname hnew hrule h) hnone
  | cycle h hmem => exact .cycle (.through hname hnew hrule h) hmem
  | mismatch reason => exact .mismatch reason
  | depth limit => exact .depth limit

/-- Every error of a judge is explained by the filter that is judged. -/
def AllExplained (registry : Registry) (judge : Judge) : Prop :=
  ∀ trail n, ∀ err ∈ (judge trail n).2, Explained registry trail n err

section

variable {e record} {judge : Judge} (hj : AllExplained e.registry judge) {trail : List String} {n : Node}
  {err : EvalError}
include hj

theorem follow_explained {name : String} (hname : .rule name ∈ n.references)
    (herr : err ∈ (followOutcome e judge trail name).2) : Explained e.registry trail n err := by
  unfold followOutcome at herr
  split at herr
  · rename_i hnone
    obtain rfl := List.mem_singleton.mp herr
    exact .missing (.here hname) hnone
  · rename_i rule hrule
    dsimp only at herr
    split_ifs at herr with hmem
    · obtain rfl := List.mem_singleton.mp herr
      exact .cycle (.here hname) hmem
    · exact .through hname hmem hrule (hj _ rule.root err herr)

theorem side_explained {o : Operand} (hsub : ∀ ref ∈ o.references, ref ∈ n.references)
    (herr : err ∈ (sideOutcome e record judge trail o).2) : Explained e.registry trail n err := by
  cases o with
  | literal l => exact absurd herr List.not_mem_nil
  | field f =>
    simp only [sideOutcome] at herr
    split at herr
    · exact absurd herr List.not_mem_nil
    · obtain rfl := List.mem_singleton.mp herr
      exact .field (.here (hsub _ List.mem_cons_self))
  | rule name => exact follow_explained hj (hsub _ List.mem_cons_self) herr

end

/-- **Every error of an outcome is explained.** -/
theorem outcome_explained (levels : ℕ) : AllExplained e.registry (outcome e record levels) := by
  induction levels with
  | zero =>
    intro trail n err herr
    obtain rfl := List.mem_singleton.mp herr
    exact .depth e.limit
  | succ levels ih =>
    intro trail n err herr
    cases n with
    | expression op negated first rest =>
      rcases List.mem_append.mp herr with herr | herr
      · exact (ih trail first err herr).mono fun ref => List.mem_append_left (referencesAll rest)
      · obtain ⟨node, hnode, herr⟩ := mem_restOutcome herr
        exact (ih trail node err herr).mono fun ref href =>
          List.mem_append_right _ (references_subset_referencesAll hnode href)
    | comparison cmp =>
      rcases mem_comparisonOutcome e record herr with herr | herr | ⟨reason, rfl⟩
      · exact side_explained ih (fun ref => List.mem_append_left cmp.right.references) herr
      · exact side_explained ih (fun ref => List.mem_append_right cmp.left.references) herr
      · exact .mismatch reason
    | search term => exact absurd herr List.not_mem_nil
    | «alias» name => exact follow_explained ih List.mem_cons_self herr

/-- Every error that evaluation records is explained. -/
theorem evaluate_explained {n : Node} {err : EvalError} (herr : err ∈ (e.evaluate n record).2.errors) :
    Explained e.registry [] n err :=
  outcome_explained e record e.limit [] n err (mem_outcome e record herr)

/-- **The check of dependencies is sound for evaluation.** On every record and with every limit, each
missing name, cycle and missing field that is recorded is found by the walk over the dependencies; if
the walk finds no error, no name is missing and no cycle is closed. -/
theorem errors_found (n : Node) :
    (∀ name, .aliasNotFound name ∈ (e.evaluate n record).2.errors →
        .aliasNotFound name ∈ (dependencies n e.registry true).errors) ∧
      (∀ trace, .cyclicAlias trace ∈ (e.evaluate n record).2.errors →
        .cyclicAlias trace ∈ (dependencies n e.registry true).errors) ∧
      (∀ name, .fieldNotFound name ∈ (e.evaluate n record).2.errors →
        name ∈ (dependencies n e.registry true).fields) ∧
      ((dependencies n e.registry true).errors = [] → ∀ err ∈ (e.evaluate n record).2.errors,
        (∀ name, err ≠ .aliasNotFound name) ∧ ∀ trace, err ≠ .cyclicAlias trace) := by
  have hexplained : ∀ err ∈ (e.evaluate n record).2.errors, Explained e.registry [] n err :=
    fun err herr => evaluate_explained e record herr
  have hmissing : ∀ name, .aliasNotFound name ∈ (e.evaluate n record).2.errors →
      .aliasNotFound name ∈ (dependencies n e.registry true).errors := by
    intro name herr
    cases hexplained _ herr with
    | missing h hnone =>
      refine dependencies_has h (.missing (fun hmem => ?_) hnone)
      exact (trail_of_reached h trail_nil).lookup_ne_none hmem hnone
  have hcycle : ∀ trace, .cyclicAlias trace ∈ (e.evaluate n record).2.errors →
      .cyclicAlias trace ∈ (dependencies n e.registry true).errors := by
    intro trace herr
    cases hexplained _ herr with
    | cycle h hmem => exact dependencies_has h (.cycle hmem)
  refine ⟨hmissing, hcycle, fun name herr => ?_, fun hnone err herr => ⟨?_, ?_⟩⟩
  · cases hexplained _ herr with
    | field h => exact dependencies_has h (.field name)
  · rintro name rfl
    exact absurd (hmissing name herr) (by rw [hnone]; exact List.not_mem_nil)
  · rintro trace rfl
    exact absurd (hcycle trace herr) (by rw [hnone]; exact List.not_mem_nil)

/-! ## Evaluation depends on the fields that are reached -/

/-- The records have the same values in the fields that are reached from a filter. -/
def SameFields (record record' : ρ) (trail : List String) (n : Node) : Prop :=
  ∀ trail' f, Reached e.registry trail n trail' (.field f) →
    e.resolver.resolve record f = e.resolver.resolve record' f

section

variable {e} {record} {record' : ρ} {trail : List String}

theorem SameFields.mono {m n : Node} (h : SameFields e record record' trail n)
    (hsub : ∀ ref ∈ m.references, ref ∈ n.references) : SameFields e record record' trail m :=
  fun trail' f hf => h trail' f (hf.mono hsub)

variable {judge judge' : Judge}
  (hj : ∀ trail n, SameFields e record record' trail n → judge trail n = judge' trail n) {n : Node}
  (h : SameFields e record record' trail n)
include hj h

theorem follow_same {name : String} (hname : .rule name ∈ n.references) :
    followOutcome e judge trail name = followOutcome e judge' trail name := by
  unfold followOutcome
  split
  · rfl
  · rename_i rule hrule
    dsimp only
    split_ifs with hmem
    · rfl
    · rw [hj _ rule.root fun trail' f hf => h trail' f (.through hname hmem hrule hf)]

theorem side_same {o : Operand} (hsub : ∀ ref ∈ o.references, ref ∈ n.references) :
    sideOutcome e record judge trail o = sideOutcome e record' judge' trail o := by
  cases o with
  | literal l => rfl
  | field f =>
    have hf := h trail f.name (.here (hsub _ List.mem_cons_self))
    simp only [sideOutcome, hf]
  | rule name =>
    have hfollow := follow_same hj h (hsub _ List.mem_cons_self)
    simp only [sideOutcome, hfollow]

end

/-- **Outcomes are equal where the fields that are reached and the full texts are.** -/
theorem outcome_same {record record' : ρ} (htext : e.resolver.fullText record = e.resolver.fullText record')
    (levels : ℕ) {trail : List String} {n : Node} (h : SameFields e record record' trail n) :
    outcome e record levels trail n = outcome e record' levels trail n := by
  induction levels generalizing trail n with
  | zero => rfl
  | succ levels ih =>
    have hj : ∀ trail n, SameFields e record record' trail n →
        outcome e record levels trail n = outcome e record' levels trail n := fun trail n => ih
    cases n with
    | expression op negated first rest =>
      have hfirst := ih (h.mono fun ref => List.mem_append_left (referencesAll rest))
      have hrest : ∀ node ∈ rest, outcome e record' levels trail node = outcome e record levels trail node :=
        fun node hnode => (ih (h.mono fun ref href =>
          List.mem_append_right _ (references_subset_referencesAll hnode href))).symm
      simp only [outcome, hfirst, restOutcome_congr hrest]
    | comparison cmp =>
      have hleft := side_same hj h fun ref => List.mem_append_left cmp.right.references
      have hright := side_same hj h fun ref => List.mem_append_right cmp.left.references
      simp only [outcome, comparisonOutcome, hleft, hright]
    | search term => simp only [outcome, Evaluator.searchText, htext]
    | «alias» name =>
      have hfollow := follow_same hj h (List.mem_cons_self)
      simp only [outcome, hfollow]

/-- **The dependencies of a filter are all that it reads.** Records on which the fields found by the
walk have the same values and types, and which have the same full text, get the same verdict and the
same errors in the same order. -/
theorem evaluate_eq_of_fields {ρ : Type} (e : Evaluator ρ) (n : Node) {record record' : ρ}
    (hfields : ∀ f ∈ (dependencies n e.registry true).fields,
      e.resolver.resolve record f = e.resolver.resolve record' f)
    (htext : e.resolver.fullText record = e.resolver.fullText record') :
    e.evaluate n record = e.evaluate n record' := by
  have hsame : SameFields e record record' [] n := fun _ f hf => hfields f (dependencies_has hf (.field f))
  rw [evaluate_eq_outcome, evaluate_eq_outcome, outcome_same e htext e.limit hsame]

/-- A saved filter that reads the level and refers to a name that is missing. -/
def loud : Rule := .named "loud" (.expression .or false
  (.compare (.field ⟨"level", .text⟩) .equal (.literal (.text "error"))) [.alias "gone"])

/-- Two records that differ in their messages only. -/
def twoMessages : Evaluator Bool where
  resolver :=
    ⟨fun record f =>
      if f = "level" then some ⟨.text "info", .text⟩
      else if f = "message" then some ⟨.boolean record, .boolean⟩
      else none,
    fun _ => "info"⟩
  registry := ⟨[("loud", loud)]⟩

theorem evaluate_eq_twoMessages :
    (∀ f ∈ (dependencies (.alias "Loud") twoMessages.registry true).fields,
        twoMessages.resolver.resolve true f = twoMessages.resolver.resolve false f) ∧
      twoMessages.resolver.fullText true = twoMessages.resolver.fullText false ∧
      twoMessages.resolver.resolve true "message" ≠ twoMessages.resolver.resolve false "message" ∧
      twoMessages.evaluate (.alias "Loud") true = twoMessages.evaluate (.alias "Loud") false := by
  have hwalk : (dependencies (.alias "Loud") twoMessages.registry true).fields = ["level"] := by cbv
  have hfields : ∀ f ∈ (dependencies (.alias "Loud") twoMessages.registry true).fields,
      twoMessages.resolver.resolve true f = twoMessages.resolver.resolve false f := by
    intro f hf
    rw [hwalk] at hf
    rw [List.mem_singleton.mp hf]
    rfl
  exact ⟨hfields, rfl, by simp [twoMessages], evaluate_eq_of_fields twoMessages _ hfields rfl⟩

end LogQuery.Filter
