import LogQuery.Proofs.Filter.DependencyGraph
import LogQuery.Proofs.Filter.Parts

/-!
# Proofs.Filter.Hidden — filters that are true although they failed

A part of a filter that fails counts as false and records an error, and its siblings carry on. So a filter can
be true with an error behind it: below a negation, in an alternative that a later part decides, and in the
comparison of a saved filter, whose verdict is a value like any other.

* `Hides`: the places where an error stays without effect on the verdict.
* `fails_iff_hides`: a filter that is true has recorded an error if and only if one is hidden there.
* `Direct`: filters without such places; `errors_eq_nil_of_direct`: if they are true, nothing failed.
-/

namespace LogQuery.Filter

variable {ρ : Type} (e : Evaluator ρ) (record : ρ)

/-- The parts of an expression that are judged, up to the first that decides it. -/
def judged (levels : ℕ) (trail : List String) (op : Connective) (parts : List Node) : List Node :=
  upToDecision op (fun n => (outcome e record levels trail n).1) parts

/-- An error stays without effect on the verdict of a filter: a part that failed is negated, or another part
decides the alternative that it stands in; or a saved filter failed whose verdict is compared; or a part that is
true, or the body of a saved filter, hides an error in turn. -/
inductive Hides : ℕ → List String → Node → Prop where
  | negation {levels : ℕ} {trail : List String} {op : Connective} {first n : Node} {rest : List Node}
      (hmem : n ∈ judged e record levels trail op (first :: rest))
      (hfails : (outcome e record levels trail n).2 ≠ []) :
      Hides (levels + 1) trail (.expression op true first rest)
  | alternative {levels : ℕ} {trail : List String} {first n : Node} {rest : List Node}
      (hmem : n ∈ judged e record levels trail .or (first :: rest))
      (hfalse : (outcome e record levels trail n).1 = false) (hfails : (outcome e record levels trail n).2 ≠ []) :
      Hides (levels + 1) trail (.expression .or false first rest)
  | part {levels : ℕ} {trail : List String} {op : Connective} {first n : Node} {rest : List Node}
      (hmem : n ∈ judged e record levels trail op (first :: rest))
      (htrue : (outcome e record levels trail n).1 = true) (h : Hides levels trail n) :
      Hides (levels + 1) trail (.expression op false first rest)
  | side {levels : ℕ} {trail : List String} {cmp : Comparison} {name : String}
      (hside : cmp.left = .rule name ∨ cmp.right = .rule name)
      (hfails : (followOutcome e (outcome e record levels) trail name).2 ≠ []) :
      Hides (levels + 1) trail (.comparison cmp)
  | saved {levels : ℕ} {trail : List String} {name : String} {rule : Rule} (hnew : Text.lower name ∉ trail)
      (hrule : e.registry.lookup name = some rule) (h : Hides levels (trail ++ [Text.lower name]) rule.root) :
      Hides (levels + 1) trail (.alias name)

/-! ## True comparisons and true saved filters -/

section

variable (judge : Judge) {trail : List String}

/-- A side that was found has an error only if it is the verdict of a saved filter. -/
theorem side_errors_eq {o : Operand} {side : Side} {errs : List EvalError}
    (h : sideOutcome e record judge trail o = (some side, errs)) :
    errs = [] ∨ ∃ name, o = .rule name ∧ errs = (followOutcome e judge trail name).2 := by
  cases o with
  | literal l => exact .inl (Prod.mk.inj h).2.symm
  | field f =>
    simp only [sideOutcome] at h
    split at h
    · exact .inl (Prod.mk.inj h).2.symm
    · exact absurd (Prod.mk.inj h).1 (Option.some_ne_none side).symm
  | rule name => exact .inr ⟨name, rfl, (Prod.mk.inj h).2.symm⟩

/-- Both sides of a true comparison were found, and its errors are those of the sides. -/
theorem comparison_of_true {cmp : Comparison} (h : (comparisonOutcome e record judge trail cmp).1 = true) :
    ∃ left errs right errs', sideOutcome e record judge trail cmp.left = (some left, errs) ∧
      sideOutcome e record judge trail cmp.right = (some right, errs') ∧
      (comparisonOutcome e record judge trail cmp).2 = errs ++ errs' := by
  unfold comparisonOutcome at h ⊢
  cases hl : sideOutcome e record judge trail cmp.left with
  | mk left? errs =>
    cases left? with
    | none => simp [hl] at h
    | some left =>
      cases hr : sideOutcome e record judge trail cmp.right with
      | mk right? errs' =>
        cases right? with
        | none => simp [hl, hr] at h
        | some right =>
          refine ⟨left, errs, right, errs', rfl, rfl, ?_⟩
          simp only [hl, hr, compareOutcome] at h ⊢
          cases hcompare : compare cmp.op left right with
          | ok verdict => exact List.append_nil _
          | error err => simp [hcompare] at h

/-- A true comparison failed if and only if a saved filter failed whose verdict it compares. -/
theorem comparison_fails_iff {cmp : Comparison} (h : (comparisonOutcome e record judge trail cmp).1 = true) :
    (comparisonOutcome e record judge trail cmp).2 ≠ [] ↔
      ∃ name, (cmp.left = .rule name ∨ cmp.right = .rule name) ∧ (followOutcome e judge trail name).2 ≠ [] := by
  obtain ⟨left, errs, right, errs', hl, hr, herrs⟩ := comparison_of_true e record judge h
  rw [herrs, ne_eq, List.append_eq_nil_iff, not_and_or]
  constructor
  · rintro (hne | hne)
    · obtain ⟨name, hname, rfl⟩ := (side_errors_eq e record judge hl).resolve_left hne
      exact ⟨name, .inl hname, hne⟩
    · obtain ⟨name, hname, rfl⟩ := (side_errors_eq e record judge hr).resolve_left hne
      exact ⟨name, .inr hname, hne⟩
  · rintro ⟨name, hname | hname, hne⟩
    · rw [hname] at hl
      exact .inl ((Prod.mk.inj hl).2 ▸ hne)
    · rw [hname] at hr
      exact .inr ((Prod.mk.inj hr).2 ▸ hne)

/-- A saved filter that is true was found and followed. -/
theorem follow_of_true {name : String} (h : (followOutcome e judge trail name).1.getD false = true) :
    ∃ rule, e.registry.lookup name = some rule ∧ Text.lower name ∉ trail ∧
      followOutcome e judge trail name =
        (some (judge (trail ++ [Text.lower name]) rule.root).1, (judge (trail ++ [Text.lower name]) rule.root).2) := by
  unfold followOutcome at h ⊢
  cases hrule : e.registry.lookup name with
  | none => simp [hrule] at h
  | some rule =>
    simp only [hrule] at h ⊢
    split_ifs at h ⊢ with hmem
    · simp at h
    · exact ⟨rule, rfl, hmem, rfl⟩

end

/-! ## True expressions -/

section

variable (levels : ℕ) (trail : List String) (op : Connective) (negated : Bool) (first : Node) (rest : List Node)

/-- The verdict of an expression is that of its connective, and it fails if a part fails that is judged. -/
theorem expression_outcome :
    (outcome e record (levels + 1) trail (.expression op negated first rest)).1 =
        (op.verdict ((first :: rest).map fun n => (outcome e record levels trail n).1) != negated) ∧
      ((outcome e record (levels + 1) trail (.expression op negated first rest)).2 ≠ [] ↔
        ∃ n ∈ judged e record levels trail op (first :: rest), (outcome e record levels trail n).2 ≠ []) := by
  obtain ⟨hverdict, herrors⟩ := chain_outcome (outcome e record levels trail) op first rest
  constructor
  · rw [← hverdict]
    rfl
  · have hsum : (outcome e record (levels + 1) trail (.expression op negated first rest)).2 = _ := herrors
    simp only [hsum, judged, ne_eq, List.flatMap_eq_nil_iff, not_forall, exists_prop]

/-- The parts of a conjunction that is true are true. -/
theorem true_of_conjunction {n : Node}
    (h : Connective.verdict .and ((first :: rest).map fun n => (outcome e record levels trail n).1) = true)
    (hmem : n ∈ judged e record levels trail .and (first :: rest)) :
    (outcome e record levels trail n).1 = true := by
  have hall := List.all_eq_true.mp h
  exact hall _ (List.mem_map.mpr ⟨n, List.mem_of_mem_take hmem, rfl⟩)

end

/-! ## Where a failure is hidden -/

section

variable {levels : ℕ} {trail : List String}

/-- A negated expression hides the failures of all its parts that are judged. -/
theorem negation_fails_iff (op : Connective) (first : Node) (rest : List Node) :
    (outcome e record (levels + 1) trail (.expression op true first rest)).2 ≠ [] ↔
      Hides e record (levels + 1) trail (.expression op true first rest) := by
  rw [(expression_outcome e record levels trail op true first rest).2]
  constructor
  · rintro ⟨n, hmem, hn⟩
    exact .negation hmem hn
  · rintro (⟨hmem, hn⟩)
    exact ⟨_, hmem, hn⟩

/-- In a plain expression that is true, a part that failed is hidden by the alternative, or it is true itself. -/
theorem plain_fails_iff {op : Connective} {first : Node} {rest : List Node}
    (ih : ∀ n, (outcome e record levels trail n).1 = true →
      ((outcome e record levels trail n).2 ≠ [] ↔ Hides e record levels trail n))
    (h : (outcome e record (levels + 1) trail (.expression op false first rest)).1 = true) :
    (outcome e record (levels + 1) trail (.expression op false first rest)).2 ≠ [] ↔
      Hides e record (levels + 1) trail (.expression op false first rest) := by
  obtain ⟨hverdict, hfails⟩ := expression_outcome e record levels trail op false first rest
  rw [hverdict, Bool.bne_false] at h
  rw [hfails]
  constructor
  · rintro ⟨n, hmem, hn⟩
    cases htrue : (outcome e record levels trail n).1 with
    | true => exact .part hmem htrue ((ih n htrue).mp hn)
    | false =>
      cases op with
      | or => exact .alternative hmem htrue hn
      | and => exact Bool.noConfusion ((true_of_conjunction e record levels trail first rest h hmem).symm.trans htrue)
  · rintro (_ | ⟨hmem, -, hn⟩ | ⟨hmem, htrue, hn⟩)
    · exact ⟨_, hmem, hn⟩
    · exact ⟨_, hmem, (ih _ htrue).mpr hn⟩

/-- A saved filter that is true hides what its body hides. -/
theorem saved_fails_iff {name : String}
    (ih : ∀ trail n, (outcome e record levels trail n).1 = true →
      ((outcome e record levels trail n).2 ≠ [] ↔ Hides e record levels trail n))
    (h : (outcome e record (levels + 1) trail (.alias name)).1 = true) :
    (outcome e record (levels + 1) trail (.alias name)).2 ≠ [] ↔ Hides e record (levels + 1) trail (.alias name) := by
  obtain ⟨rule, hrule, hnew, hfollow⟩ := follow_of_true e (outcome e record levels) h
  have halias : outcome e record (levels + 1) trail (.alias name) =
      outcome e record levels (trail ++ [Text.lower name]) rule.root := by
    rw [outcome, hfollow]
    rfl
  rw [halias] at h ⊢
  rw [ih _ _ h]
  constructor
  · exact fun hn => .saved hnew hrule hn
  · rintro (_ | _ | _ | _ | ⟨-, hrule', hn⟩)
    obtain rfl : rule = _ := Option.some.inj (hrule.symm.trans hrule')
    exact hn

end

/-- **A filter that is true hides its failures.** It has recorded an error if and only if one stays without effect
on the verdict. -/
theorem fails_iff_hides {levels : ℕ} {trail : List String} {n : Node}
    (h : (outcome e record levels trail n).1 = true) :
    (outcome e record levels trail n).2 ≠ [] ↔ Hides e record levels trail n := by
  induction levels generalizing trail n with
  | zero => exact Bool.noConfusion h
  | succ levels ih =>
    cases n with
    | expression op negated first rest =>
      cases negated with
      | true => exact negation_fails_iff e record op first rest
      | false => exact plain_fails_iff e record (fun _ => ih) h
    | comparison cmp =>
      have hfails : (outcome e record (levels + 1) trail (.comparison cmp)).2 ≠ [] ↔ _ :=
        comparison_fails_iff e record (outcome e record levels) h
      rw [hfails]
      constructor
      · rintro ⟨name, hside, hname⟩
        exact .side hside hname
      · rintro (_ | _ | _ | ⟨hside, hname⟩)
        exact ⟨_, hside, hname⟩
    | search term => exact iff_of_false (fun hne => hne rfl) fun hn => nomatch hn
    | «alias» name => exact saved_fails_iff e record (fun _ _ => ih) h

/-- The same of an evaluation. -/
theorem evaluate_fails_iff_hides {n : Node} (h : (e.evaluate n record).1 = true) :
    (e.evaluate n record).2.errors ≠ [] ↔ Hides e record e.limit [] n := by
  have htrue : (outcome e record e.limit [] n).1 = true := by rwa [evaluate_eq_outcome] at h
  rw [← fails_iff_hides e record htrue, evaluate_errors]
  -- the first error is never left out
  cases (outcome e record e.limit [] n).2 <;> simp [limitOnce]

/-! ## Filters that hide nothing -/

/-- The node itself hides no failure of its parts: it is neither negated nor an alternative of several parts, and it
compares no verdict of a saved filter. -/
def Node.IsDirect : Node → Prop
  | .expression op negated _ rest => negated = false ∧ (op = .and ∨ rest = [])
  | .comparison c => ∀ name, c.left ≠ .rule name ∧ c.right ≠ .rule name
  | _ => True

/-- No part of the filter hides a failure, and none of a saved filter does that the filter leads to. -/
structure Direct (registry : Registry) (n : Node) : Prop where
  part : ∀ m ∈ n.parts, m.IsDirect
  saved : ∀ key rule, Reachable registry n key → registry.get? key = some rule → ∀ m ∈ rule.root.parts, m.IsDirect

section

variable {registry : Registry}

theorem Reachable.mono {m n : Node} {key : String} (hsub : ∀ ref ∈ m.references, ref ∈ n.references)
    (h : Reachable registry m key) : Reachable registry n key := by
  obtain ⟨name, hname, hpath⟩ := h
  exact ⟨name, hsub _ hname, hpath⟩

theorem Direct.of_mem {op : Connective} {negated : Bool} {first n : Node} {rest : List Node}
    (h : Direct registry (.expression op negated first rest)) (hmem : n ∈ first :: rest) : Direct registry n where
  part m hm := h.part m (parts_subset_expression op negated hmem hm)
  saved key rule hkey := h.saved key rule (hkey.mono (references_subset_referencesAll hmem))

theorem Direct.followed {name : String} {rule : Rule} (h : Direct registry (.alias name))
    (hrule : registry.lookup name = some rule) : Direct registry rule.root where
  part := h.saved _ rule ⟨name, List.mem_cons_self, .refl⟩ hrule
  saved key below hkey := by
    obtain ⟨first, hfirst, hpath⟩ := hkey
    have hstep : Refers registry (Text.lower name) (Text.lower first) := ⟨rule, first, hrule, hfirst, rfl⟩
    exact h.saved key below ⟨name, List.mem_cons_self, .head hstep hpath⟩

end

/-- A filter without a place for it hides nothing while it is true. -/
theorem not_hides_of_direct {levels : ℕ} {trail : List String} {n : Node} (hdirect : Direct e.registry n)
    (htrue : (outcome e record levels trail n).1 = true) : ¬ Hides e record levels trail n := by
  intro h
  induction h with
  | negation => exact Bool.noConfusion (hdirect.part _ List.mem_cons_self).1
  | @alternative levels trail first n rest hmem hfalse =>
    -- an alternative of one part is as false as the part
    obtain rfl : rest = [] := (hdirect.part _ List.mem_cons_self).2.resolve_left Connective.noConfusion
    obtain rfl : n = first := List.mem_singleton.mp (List.mem_of_mem_take hmem)
    rw [outcome_lone, hfalse] at htrue
    exact Bool.noConfusion htrue
  | part hmem hpart _ ih => exact ih (hdirect.of_mem (List.mem_of_mem_take hmem)) hpart
  | side hside =>
    have hsides := hdirect.part _ List.mem_cons_self
    rcases hside with hside | hside
    exacts [(hsides _).1 hside, (hsides _).2 hside]
  | @saved levels trail name rule hnew hrule _ ih =>
    obtain ⟨rule', hrule', -, hfollow⟩ := follow_of_true e (outcome e record levels) htrue
    obtain rfl : rule = rule' := Option.some.inj (hrule.symm.trans hrule')
    refine ih (hdirect.followed hrule) ?_
    rw [outcome, hfollow] at htrue
    exact htrue

/-- **If a direct filter is true, nothing failed.** -/
theorem errors_eq_nil_of_direct {n : Node} (hdirect : Direct e.registry n) (htrue : (e.evaluate n record).1 = true) :
    (e.evaluate n record).2.errors = [] := by
  by_contra hne
  have hhides := (evaluate_fails_iff_hides e record htrue).mp hne
  rw [evaluate_eq_outcome] at htrue
  exact not_hides_of_direct e record hdirect htrue hhides

end LogQuery.Filter
