import LogQuery.Proofs.Filter.Dependence

/-!
# Proofs.Filter.Substitution — a saved filter means its definition

A reference to a saved filter may be replaced in two ways. Its body in its place is evaluated one level
higher and without the name on the trail, so that limits and cycles are met later or never. A comparison
of its verdict with `true` is evaluated at the same level with the same trail.

* `Replaces`: some occurrences of a part of a filter replaced by another part.
* `StandsFor`: one filter has the outcomes of another one; `outcome_replaces`: so it does in its place.
* `alias_inlined`, `alias_compared`: the body of a saved filter, and its verdict compared with `true`.
* `evaluate_replaces_alias`: both ways keep the verdict and the errors.
-/

namespace LogQuery.Filter

/-! ## Replaced parts -/

/-- The second filter is the first one with some occurrences of `part` replaced by `other`. -/
inductive Replaces (part other : Node) : Node → Node → Prop where
  | here : Replaces part other part other
  | same (n : Node) : Replaces part other n n
  | inside (op : Connective) (negated : Bool) {first first' : Node} {rest rest' : List Node}
      (h : Replaces part other first first') (h' : List.Forall₂ (Replaces part other) rest rest') :
      Replaces part other (.expression op negated first rest) (.expression op negated first' rest')

/-- Induction over the expressions around the parts that are replaced. -/
theorem Replaces.induct {part other : Node} {motive : Node → Node → Prop} (here : motive part other)
    (same : ∀ n, motive n n)
    (inside : ∀ op negated first first' rest rest', motive first first' → List.Forall₂ motive rest rest' →
      motive (.expression op negated first rest) (.expression op negated first' rest'))
    {n n' : Node} (h : Replaces part other n n') : motive n n' := by
  refine @Replaces.rec part other (fun n n' _ => motive n n') (fun rest rest' _ => List.Forall₂ motive rest rest')
    here same ?_ ?_ ?_ n n' h
  · exact fun op negated _ _ _ _ _ _ ih ih' => inside op negated _ _ _ _ ih ih'
  · exact .nil
  · exact fun _ _ ih ih' => .cons ih ih'

section

variable {ρ : Type} (e : Evaluator ρ) (record : ρ)

/-- With as many levels and on the same trail, `n'` has each outcome of `n` whose errors all satisfy `P`. -/
def StandsFor (P : EvalError → Prop) (n n' : Node) : Prop :=
  ∀ levels trail, (∀ err ∈ (outcome e record levels trail n).2, P err) →
    outcome e record levels trail n' = outcome e record levels trail n

/-- **What stands for a part may stand in its place**, wherever the part occurs. -/
theorem outcome_replaces {P : EvalError → Prop} {part other : Node} (hpart : StandsFor e record P part other)
    {n n' : Node} (h : Replaces part other n n') : StandsFor e record P n n' := by
  refine Replaces.induct (motive := StandsFor e record P) ?here ?same ?inside h
  case here => exact hpart
  case same => exact fun n levels trail _ => rfl
  case inside =>
    intro op negated first first' rest rest' hfirst hrest levels trail hP
    cases levels with
    | zero => rfl
    | succ levels =>
      rw [outcome] at hP
      obtain ⟨hP, hP'⟩ := List.forall_mem_append.mp hP
      have hnodes : List.Forall₂ (fun m m' => (∀ err ∈ (outcome e record levels trail m).2, P err) →
          outcome e record levels trail m' = outcome e record levels trail m) rest rest' :=
        hrest.imp fun m m' hm => hm levels trail
      rw [outcome, outcome, hfirst levels trail hP]
      simp only [restOutcome_repeats hnodes hP']

theorem StandsFor.trans {P : EvalError → Prop} {n n' n'' : Node} (h : StandsFor e record P n n')
    (h' : StandsFor e record P n' n'') : StandsFor e record P n n'' := by
  intro levels trail hP
  have hfirst := h levels trail hP
  rw [h' levels trail (by rwa [hfirst]), hfirst]

/-- A filter that stands for another one is evaluated like it, unless the limit on levels is met. -/
theorem StandsFor.evaluate {n n' : Node} (h : StandsFor e record (fun err => err.isDepth = false) n n')
    (hs : Settled (e.evaluate n record).2.errors) : e.evaluate n' record = e.evaluate n record := by
  obtain ⟨hsettled, -, -⟩ := evaluate_of_settled e record hs
  rw [evaluate_eq_outcome, evaluate_eq_outcome, h e.limit [] hsettled]

/-! ## Saved filters -/

/-- An error that is neither about the limit on levels nor about a cycle. -/
def EvalError.isPlain : EvalError → Bool
  | .cyclicAlias _ => false
  | .depthExceeded _ => false
  | _ => true

/-- Names may be left out of the trail where no cycle is closed. -/
theorem slack_subset : Slack (fun err => err.isPlain = true) (fun trail trail' => trail' ⊆ trail) where
  settled := by
    intro err h
    cases err with
    | depthExceeded limit => exact Bool.noConfusion h
    | _ => rfl
  enter := fun key h => List.append_subset.mpr
    ⟨List.subset_append_of_subset_left _ h, List.subset_append_right _ _⟩
  free := fun h hkey hmem => hkey (h hmem)
  cycle := fun _ _ h => Bool.noConfusion h

variable {name : String}

/-- The body of a saved filter, one level higher and without its name on the trail. -/
theorem alias_inlined {rule : Rule} (hrule : e.registry.lookup name = some rule) :
    StandsFor e record (fun err => err.isPlain = true) (.alias name) rule.root := by
  intro levels trail hP
  cases levels with
  | zero => rfl
  | succ levels =>
    have halias : outcome e record (levels + 1) trail (.alias name) =
        outcome e record levels (trail ++ [Text.lower name]) rule.root := by
      simp only [outcome, followOutcome, hrule] at hP ⊢
      split_ifs at hP ⊢
      · exact Bool.noConfusion (hP _ List.mem_cons_self)
      · rfl
    rw [halias] at hP ⊢
    exact outcome_repeats e record slack_subset e.maxDepth (Nat.le_succ levels) _ trail rule.root
      (List.subset_append_left trail _) hP

/-- The comparison of the verdict of a saved filter with `true`. -/
def Node.verdictIsTrue (name : String) : Node := .compare (.rule name) .equal (.literal (.boolean true))

/-- The verdict of a saved filter, compared with `true` where the filter itself could stand. -/
theorem alias_compared (name : String) : StandsFor e record (fun _ => True) (.alias name) (.verdictIsTrue name) := by
  intro levels trail _
  cases levels with
  | zero => rfl
  | succ levels =>
    show comparisonOutcome e record (outcome e record levels) trail _ = _
    simp only [comparisonOutcome, sideOutcome, outcome]
    obtain ⟨verdict, errs⟩ := followOutcome e (outcome e record levels) trail name
    cases verdict with
    | none => rfl
    | some verdict =>
      have hcompare : compareOutcome .equal (.field name ⟨.boolean verdict, .boolean⟩) (.literal (.boolean true)) =
          (verdict == true, []) := rfl
      simp only [Option.map_some, hcompare, List.append_nil, beq_true, Option.getD_some]

/-- **A saved filter means its definition.** Its body may stand in place of a reference to it, as long as
the evaluation meets neither the limit on levels nor a cycle; the comparison of its verdict with `true`
may stand there always, also for a name that is missing or closes a cycle. Verdict and errors stay as they
are, wherever the reference occurs in a filter and however often. -/
theorem evaluate_replaces_alias (name : String) {n n' : Node} :
    (∀ rule, e.registry.lookup name = some rule → Replaces (.alias name) rule.root n n' →
        (∀ err ∈ (e.evaluate n record).2.errors, err.isPlain = true) →
        e.evaluate n' record = e.evaluate n record) ∧
      (Replaces (.alias name) (.verdictIsTrue name) n n' → e.evaluate n' record = e.evaluate n record) := by
  have hsame : outcome e record e.limit [] n' = outcome e record e.limit [] n →
      e.evaluate n' record = e.evaluate n record := by
    intro h
    rw [evaluate_eq_outcome, evaluate_eq_outcome, h]
  refine ⟨fun rule hrule h hplain => hsame ?_, fun h => hsame ?_⟩
  · have hs : Settled (e.evaluate n record).2.errors := fun err herr => slack_subset.settled (hplain err herr)
    obtain ⟨-, -, herrors⟩ := evaluate_of_settled e record hs
    rw [herrors] at hplain
    exact outcome_replaces e record (alias_inlined e record hrule) h e.limit [] hplain
  · exact outcome_replaces e record (alias_compared e record name) h e.limit [] fun _ _ => trivial

end

/-- A negated alternative that ends in a part after two others. -/
def endingIn (last : Node) : Node := .expression .or true (.search "debug") [.alias "Loud", last]

theorem evaluate_replaces_alias_loud :
    twoMessages.registry.lookup "Loud" = some loud ∧
      (twoMessages.evaluate (endingIn (.alias "Loud")) true).2.errors = [.aliasNotFound "gone", .aliasNotFound "gone"] ∧
      twoMessages.evaluate (endingIn loud.root) true = twoMessages.evaluate (endingIn (.alias "Loud")) true ∧
      twoMessages.evaluate (endingIn (.verdictIsTrue "Loud")) true =
        twoMessages.evaluate (endingIn (.alias "Loud")) true := by
  have hlast : ∀ other, Replaces (.alias "Loud") other (endingIn (.alias "Loud")) (endingIn other) :=
    fun other => .inside .or true (.same _) (.cons (.same _) (.cons .here .nil))
  have hlookup : twoMessages.registry.lookup "Loud" = some loud := by cbv
  have herrors : (twoMessages.evaluate (endingIn (.alias "Loud")) true).2.errors =
      [.aliasNotFound "gone", .aliasNotFound "gone"] := by cbv
  have hplain : ∀ err ∈ (twoMessages.evaluate (endingIn (.alias "Loud")) true).2.errors, err.isPlain = true := by
    rw [herrors]
    simp [EvalError.isPlain]
  refine ⟨hlookup, herrors, ?_, ?_⟩
  · exact (evaluate_replaces_alias twoMessages true "Loud").1 loud hlookup (hlast loud.root) hplain
  · exact (evaluate_replaces_alias twoMessages true "Loud").2 (hlast _)

end LogQuery.Filter
