import LogQuery.Proofs.Filter.Composition

/-!
# Proofs.Filter.Parts — what the parts of a filter can report

A filter that refers to no saved filter is judged by its own parts. Each error that is recorded for it
comes from one of its comparisons, or from the limit on levels if the tree has more levels than that.

* `Node.parts`, `Node.innerParts`, `Node.height`: a filter with all parts below it, and its levels.
* `Node.Standalone`: no saved filter is referred to.
* `Local`: the errors that the parts account for; `outcome_local`: there are no others.
* `settled_of_height`: a limit of as many levels as the tree has is never met.
-/

namespace LogQuery.Filter

/-! ## Parts and levels -/

mutual

/-- The filter and all parts below it. -/
def Node.parts : Node → List Node
  | .expression op negated first rest =>
    .expression op negated first rest :: (first.parts ++ partsAll rest)
  | .comparison c => [.comparison c]
  | .search term => [.search term]
  | .alias name => [.alias name]

/-- Several filters and all parts below them. -/
def partsAll : List Node → List Node
  | [] => []
  | node :: nodes => node.parts ++ partsAll nodes

end

/-- The parts below a filter, itself apart. -/
def Node.innerParts : Node → List Node
  | .expression _ _ first rest => first.parts ++ partsAll rest
  | _ => []

mutual

/-- The number of levels of a tree. A filter without connectives has one. -/
def Node.height : Node → ℕ
  | .expression _ _ first rest => max first.height (heightAll rest) + 1
  | .comparison _ => 1
  | .search _ => 1
  | .alias _ => 1

/-- The levels of the highest of several trees. -/
def heightAll : List Node → ℕ
  | [] => 0
  | node :: nodes => max node.height (heightAll nodes)

end

theorem mem_parts_self (n : Node) : n ∈ n.parts := by
  cases n <;> exact List.mem_cons_self

theorem mem_parts_of_mem_inner {n m : Node} (h : m ∈ n.innerParts) : m ∈ n.parts := by
  cases n with
  | expression => exact List.mem_cons_of_mem _ h
  | _ => exact absurd h List.not_mem_nil

theorem eq_or_mem_inner {n m : Node} (h : m ∈ n.parts) : m = n ∨ m ∈ n.innerParts := by
  cases n with
  | expression => exact List.mem_cons.mp h
  | _ => exact .inl (List.mem_singleton.mp h)

theorem height_pos (n : Node) : 0 < n.height := by
  cases n <;> exact Nat.succ_pos _

theorem parts_subset_partsAll {node : Node} {nodes : List Node} (h : node ∈ nodes) :
    node.parts ⊆ partsAll nodes := by
  induction nodes with
  | nil => exact absurd h List.not_mem_nil
  | cons other nodes ih =>
    rcases List.mem_cons.mp h with rfl | h
    · exact List.subset_append_left _ _
    · exact List.Subset.trans (ih h) (List.subset_append_right _ _)

theorem height_le_heightAll {node : Node} {nodes : List Node} (h : node ∈ nodes) :
    node.height ≤ heightAll nodes := by
  induction nodes with
  | nil => exact absurd h List.not_mem_nil
  | cons other nodes ih =>
    rcases List.mem_cons.mp h with rfl | h
    · exact Nat.le_max_left _ _
    · exact (ih h).trans (Nat.le_max_right _ _)

section

variable (op : Connective) (negated : Bool) {first child : Node} {rest : List Node}

/-- What is below a part that an expression joins is below the expression. -/
theorem parts_subset_expression (h : child ∈ first :: rest) :
    child.parts ⊆ (Node.expression op negated first rest).parts := by
  refine List.Subset.trans ?_ (List.subset_cons_self _ _)
  rcases List.mem_cons.mp h with rfl | h
  · exact List.subset_append_left _ _
  · exact List.Subset.trans (parts_subset_partsAll h) (List.subset_append_right _ _)

theorem height_lt_expression (h : child ∈ first :: rest) :
    child.height < (Node.expression op negated first rest).height := by
  have hchild : child.height ≤ heightAll (first :: rest) := height_le_heightAll h
  exact Nat.lt_succ_of_le hchild

end

/-! ## Filters without saved filters -/

/-- No saved filter is referred to, neither as a part nor as a side of a comparison. -/
structure Node.Standalone (n : Node) : Prop where
  part : ∀ name, .alias name ∉ n.parts
  side : ∀ c, .comparison c ∈ n.parts → ∀ name, c.left ≠ .rule name ∧ c.right ≠ .rule name

theorem Node.Standalone.mono {m n : Node} (hsub : m.parts ⊆ n.parts) (h : n.Standalone) : m.Standalone :=
  ⟨fun name hmem => h.part name (hsub hmem), fun c hmem => h.side c (hsub hmem)⟩

variable {ρ : Type} (e : Evaluator ρ) (record : ρ)

/-- What a side stands for, if it is no saved filter: a constant for itself, a field for its value. -/
inductive Found : Operand → Side → Prop where
  | literal (l : Literal) : Found (.literal l) (.literal l)
  | field {f : FieldRef} {field : ResolvedField} (h : e.resolver.resolve record f.name = some field) :
      Found (.field f) (.field f.name field)

/-- The errors that the parts of a filter account for: the limit on levels is lower than the tree, a
field of a comparison is missing, or its sides were found and cannot be compared. -/
inductive Local (levels : ℕ) (n : Node) : EvalError → Prop where
  | depth (h : levels < n.height) : Local levels n (.depthExceeded e.limit)
  | field {c : Comparison} {f : FieldRef} (hmem : .comparison c ∈ n.parts)
      (hside : c.left = .field f ∨ c.right = .field f) (hnone : e.resolver.resolve record f.name = none) :
      Local levels n (.fieldNotFound f.name)
  | comparison {c : Comparison} {left right : Side} {err : EvalError} (hmem : .comparison c ∈ n.parts)
      (hleft : Found e record c.left left) (hright : Found e record c.right right)
      (herr : compare c.op left right = .error err) : Local levels n err

section

variable {e record} {levels : ℕ} {n : Node} {err : EvalError}

/-- What a part accounts for, the expression around it accounts for with one level more. -/
theorem Local.expression {op : Connective} {negated : Bool} {first child : Node} {rest : List Node}
    (hchild : child ∈ first :: rest) (h : Local e record levels child err) :
    Local e record (levels + 1) (.expression op negated first rest) err := by
  have hsub := parts_subset_expression op negated hchild
  cases h with
  | depth h =>
    have hlt := height_lt_expression op negated hchild
    exact .depth (by omega)
  | field hmem hside hnone => exact .field (hsub hmem) hside hnone
  | comparison hmem hleft hright herr => exact .comparison (hsub hmem) hleft hright herr

/-- Without too many levels, the limit is not met. -/
theorem Local.not_isDepth (hheight : n.height ≤ levels) (h : Local e record levels n err) :
    err.isDepth = false := by
  cases h with
  | depth h => omega
  | field => rfl
  | comparison _ _ _ herr =>
    obtain ⟨reason, rfl⟩ := compare_mismatch _ _ _ _ herr
    rfl

end

/-! ## Every error is accounted for -/

/-- Looking up a side that is no saved filter either finds it or reports a field. -/
theorem sideOutcome_found (judge : Judge) (trail : List String) {o : Operand} (ho : ∀ name, o ≠ .rule name) :
    (∃ side, sideOutcome e record judge trail o = (some side, []) ∧ Found e record o side) ∨
      ∃ f, o = .field f ∧ e.resolver.resolve record f.name = none ∧
        sideOutcome e record judge trail o = (none, [.fieldNotFound f.name]) := by
  cases o with
  | literal l => exact .inl ⟨_, rfl, .literal l⟩
  | field f =>
    simp only [sideOutcome]
    cases hf : e.resolver.resolve record f.name with
    | none => exact .inr ⟨f, rfl, hf, rfl⟩
    | some field => exact .inl ⟨_, rfl, .field hf⟩
  | rule name => exact absurd rfl (ho name)

theorem comparisonOutcome_local (levels : ℕ) (judge : Judge) (trail : List String) {c : Comparison}
    (h : (Node.comparison c).Standalone) {err : EvalError}
    (herr : err ∈ (comparisonOutcome e record judge trail c).2) :
    Local e record levels (.comparison c) err := by
  have hmem := mem_parts_self (.comparison c)
  have hsides := h.side c hmem
  unfold comparisonOutcome at herr
  rcases sideOutcome_found e record judge trail fun name => (hsides name).1 with
    ⟨left, hleft, hfound⟩ | ⟨f, hf, hnone, hleft⟩
  · rcases sideOutcome_found e record judge trail fun name => (hsides name).2 with
      ⟨right, hright, hfound'⟩ | ⟨f, hf, hnone, hright⟩
    · simp only [hleft, hright, compareOutcome] at herr
      cases hcompare : compare c.op left right with
      | ok verdict => simp [hcompare] at herr
      | error err' =>
        obtain rfl : err = err' := by simpa [hcompare] using herr
        exact .comparison hmem hfound hfound' hcompare
    · obtain rfl : err = .fieldNotFound f.name := by simpa [hleft, hright] using herr
      exact .field hmem (.inr hf) hnone
  · obtain rfl : err = .fieldNotFound f.name := by simpa [hleft] using herr
    exact .field hmem (.inl hf) hnone

/-- **The parts of a filter account for its errors**, if it refers to no saved filter. -/
theorem outcome_local (levels : ℕ) (trail : List String) {n : Node} (h : n.Standalone) {err : EvalError}
    (herr : err ∈ (outcome e record levels trail n).2) : Local e record levels n err := by
  induction levels generalizing n with
  | zero =>
    obtain rfl := List.mem_singleton.mp herr
    exact .depth (height_pos n)
  | succ levels ih =>
    cases n with
    | expression op negated first rest =>
      have hchild : ∃ child ∈ first :: rest, err ∈ (outcome e record levels trail child).2 := by
        rcases List.mem_append.mp herr with herr | herr
        · exact ⟨first, List.mem_cons_self, herr⟩
        · obtain ⟨node, hnode, herr⟩ := mem_restOutcome herr
          exact ⟨node, List.mem_cons_of_mem _ hnode, herr⟩
      obtain ⟨child, hmem, herr⟩ := hchild
      exact (ih (h.mono (parts_subset_expression op negated hmem)) herr).expression hmem
    | comparison c => exact comparisonOutcome_local e record _ _ trail h herr
    | search term => exact absurd herr List.not_mem_nil
    | «alias» name => exact absurd (mem_parts_self _) (h.part name)

/-- An evaluation records errors that the parts account for. -/
theorem evaluate_local {n : Node} (h : n.Standalone) {err : EvalError}
    (herr : err ∈ (e.evaluate n record).2.errors) : Local e record e.limit n err :=
  outcome_local e record e.limit [] h (mem_outcome e record herr)

/-- **A limit of as many levels as the tree has is never met.** -/
theorem settled_of_height {n : Node} (h : n.Standalone) (hheight : n.height ≤ e.limit) :
    Settled (e.evaluate n record).2.errors :=
  fun _ herr => (evaluate_local e record h herr).not_isDepth hheight

end LogQuery.Filter
