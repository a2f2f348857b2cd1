import LogQuery.Color.Rule
import Mathlib

/-!
# Proofs.Color.Winner — the color rule that wins on a record

The rules are scanned once, and the best one so far is kept. Its rank, the priority with the index, is the least
of the ranks of all rules that apply, since a later rule of the same priority has the greater index.

* `ranks`, `ranks_cons`: the ranks of the rules that apply.
* `isLeast_step`, `pickFrom_eq_some_iff`: a step of the scan keeps the least rank, and the scan finds it.
* `pick_eq_some_iff`, `pick_eq_none_iff`: the rule that wins, and when there is none.
-/

namespace LogQuery.ColorRule

open LogQuery.Filter

/-! ## Ranks -/

section

variable {applies : ColorRule → Bool} {index : ℕ} {best : Option (ℕ × ℤ)} {r : ColorRule} {rules : List ColorRule}

/-- The ranks of the rules that apply: lesser priorities come first, and of equal ones lesser indices. The
first rule here has the given index. -/
def ranks (applies : ColorRule → Bool) (index : ℕ) (rules : List ColorRule) : Set (ℤ ×ₗ ℕ) :=
  {c | ∃ k r, rules[k]? = some r ∧ applies r = true ∧ c = toLex (r.priority, index + k)}

/-- The rank of the best rule so far. -/
def rankOf (best : Option (ℕ × ℤ)) : Set (ℤ ×ₗ ℕ) := {c | ∃ b ∈ best, c = toLex (b.2, b.1)}

theorem ranks_nil : ranks applies index [] = ∅ := by
  ext c
  simp [ranks]

theorem ranks_cons : ranks applies index (r :: rules) =
    {c | applies r = true ∧ c = toLex (r.priority, index)} ∪ ranks applies (index + 1) rules := by
  ext c
  constructor
  · rintro ⟨k, r', hr', happlies, rfl⟩
    cases k with
    | zero =>
      obtain rfl : r = r' := by simpa using hr'
      exact .inl ⟨happlies, rfl⟩
    | succ k => exact .inr ⟨k, r', by simpa using hr', happlies, by rw [Nat.add_right_comm, Nat.add_assoc]⟩
  · rintro (⟨happlies, rfl⟩ | ⟨k, r', hr', happlies, rfl⟩)
    · exact ⟨0, r, rfl, happlies, rfl⟩
    · exact ⟨k + 1, r', by simpa using hr', happlies, by rw [Nat.add_right_comm, Nat.add_assoc]⟩

theorem ranks_cons_of_applies (h : applies r = true) :
    ranks applies index (r :: rules) = insert (toLex (r.priority, index)) (ranks applies (index + 1) rules) := by
  rw [ranks_cons, h, ← Set.singleton_union]
  simp

theorem ranks_cons_of_not_applies (h : applies r = false) :
    ranks applies index (r :: rules) = ranks applies (index + 1) rules := by
  simp [ranks_cons, h]

theorem rankOf_none : rankOf none = ∅ := by
  ext c
  simp [rankOf]

theorem rankOf_some (i : ℕ) (p : ℤ) : rankOf (some (i, p)) = {toLex (p, i)} := by
  ext c
  simp [rankOf]

/-- At the end of the scan the best rule so far is the only one left. -/
theorem map_fst_eq_some_iff {i : ℕ} : best.map (·.1) = some i ↔ ∃ p, IsLeast (rankOf best) (toLex (p, i)) := by
  cases best with
  | none => simp [rankOf_none, IsLeast]
  | some b =>
    obtain ⟨j, q⟩ := b
    rw [rankOf_some]
    constructor
    · intro h
      obtain rfl : j = i := Option.some.inj h
      exact ⟨q, isLeast_singleton⟩
    · rintro ⟨p, h⟩
      have heq : (q, j) = (p, i) := toLex.injective (isLeast_singleton.unique h)
      exact congrArg some (Prod.mk.inj heq).2

/-- What lies above a member is not the least. -/
theorem isLeast_insert_of_lt {α : Type} [PartialOrder α] {S : Set α} {x d c : α} (hd : d ∈ S) (hlt : d < x) :
    IsLeast (insert x S) c ↔ IsLeast S c := by
  constructor
  · rintro ⟨hmem, hleast⟩
    have hne : c ≠ x := by
      rintro rfl
      exact absurd (hleast (.inr hd)) (not_le_of_gt hlt)
    exact ⟨hmem.resolve_left hne, fun a ha => hleast (.inr ha)⟩
  · rintro ⟨hmem, hleast⟩
    refine ⟨.inr hmem, ?_⟩
    rintro a (rfl | ha)
    · exact (hleast hd).trans hlt.le
    · exact hleast ha

/-- One step of the scan drops no least rank: of the best rule so far and one that comes after it and applies, the
one that is kept has the lesser rank. -/
theorem isLeast_step (hbest : ∀ b ∈ best, b.1 < index) (p : ℤ) (S : Set (ℤ ×ₗ ℕ)) (c : ℤ ×ₗ ℕ) :
    IsLeast (rankOf (if (best.all fun b => p < b.2) = true then some (index, p) else best) ∪ S) c ↔
      IsLeast (insert (toLex (p, index)) (rankOf best ∪ S)) c := by
  cases best with
  | none => rw [Option.all_none, if_pos rfl, rankOf_some, rankOf_none, Set.empty_union, Set.singleton_union]
  | some b =>
    obtain ⟨j, q⟩ := b
    have hj : j < index := hbest (j, q) rfl
    simp only [Option.all_some, decide_eq_true_eq, rankOf_some, Set.singleton_union]
    split_ifs with hless
    · have hlt : toLex (p, index) < toLex (q, j) := Prod.Lex.toLex_lt_toLex.mpr (.inl hless)
      rw [rankOf_some, Set.singleton_union, Set.insert_comm, isLeast_insert_of_lt (Set.mem_insert _ S) hlt]
    · have hlt : toLex (q, j) < toLex (p, index) := by
        refine Prod.Lex.toLex_lt_toLex.mpr ?_
        rcases lt_or_eq_of_le (not_lt.mp hless) with h | h
        · exact .inl h
        · exact .inr ⟨h, hj⟩
      rw [rankOf_some, Set.singleton_union, isLeast_insert_of_lt (Set.mem_insert _ S) hlt]

/-- The best rule so far comes before the rules still to be scanned, so that it keeps its place at equal
priority. -/
theorem pickFrom_eq_some_iff (hbest : ∀ b ∈ best, b.1 < index) {i : ℕ} :
    pickFrom applies index best rules = some i ↔
      ∃ p, IsLeast (rankOf best ∪ ranks applies index rules) (toLex (p, i)) := by
  induction rules generalizing index best with
  | nil =>
    rw [ranks_nil, Set.union_empty, pickFrom]
    exact map_fst_eq_some_iff
  | cons r rest ih =>
    have hkept : ∀ b ∈ best, b.1 < index + 1 := fun b hb => Nat.lt_succ_of_lt (hbest b hb)
    rw [pickFrom]
    cases happlies : applies r with
    | false =>
      rw [ranks_cons_of_not_applies happlies, Bool.false_and]
      exact ih hkept
    | true =>
      rw [ranks_cons_of_applies happlies, Bool.true_and, Set.union_insert]
      simp only [← isLeast_step hbest]
      refine ih ?_
      split_ifs
      · simp
      · exact hkept

/-- A rule that was found is not forgotten. -/
theorem pickFrom_eq_none_iff :
    pickFrom applies index best rules = none ↔ best = none ∧ ∀ r ∈ rules, applies r = false := by
  induction rules generalizing index best with
  | nil => simp [pickFrom]
  | cons r rest ih =>
    rw [pickFrom, ih, List.forall_mem_cons]
    cases happlies : applies r with
    | false => simp
    | true =>
      have hfound : ∀ q : Option (ℕ × ℤ), (if (true && q.all fun b => r.priority < b.2) = true
          then some (index, r.priority) else q) ≠ none := by
        intro q
        cases q with
        | none => simp
        | some b => split_ifs <;> simp
      simp only [Bool.true_eq_false, false_and, and_false, iff_false, not_and]
      intro h
      exact absurd h (hfound best)

end

/-! ## The winning rule -/

section

variable {ρ : Type} (e : Evaluator ρ) (record : ρ)

/-- The rule is enabled, and its filter is true of the record. -/
def Applies (r : ColorRule) : Prop := r.enabled = true ∧ (e.evaluate r.rule.root record).1 = true

theorem accepts_iff {r : ColorRule} : accepts e record r = true ↔ Applies e record r := Bool.and_eq_true_iff

/-- The rule with this index applies, and no rule that applies has a smaller pair of priority and index. -/
def Wins (rules : List ColorRule) (i : ℕ) : Prop :=
  ∃ r, rules[i]? = some r ∧ Applies e record r ∧
    ∀ j r', rules[j]? = some r' → Applies e record r' → ¬ toLex (r'.priority, j) < toLex (r.priority, i)

theorem pick_eq_some_iff (rules : List ColorRule) (i : ℕ) :
    pick e rules record = some i ↔ Wins e record rules i := by
  have hscan : pick e rules record = some i ↔
      ∃ p, IsLeast (rankOf none ∪ ranks (accepts e record) 0 rules) (toLex (p, i)) :=
    pickFrom_eq_some_iff (by simp)
  rw [hscan, rankOf_none, Set.empty_union]
  constructor
  · rintro ⟨p, ⟨k, r, hr, happlies, hrank⟩, hleast⟩
    obtain ⟨rfl, hi⟩ := Prod.mk.inj (toLex.injective hrank)
    obtain rfl : i = k := by simpa using hi
    refine ⟨r, hr, (accepts_iff e record).mp happlies, fun j r' hr' happlies' => ?_⟩
    exact not_lt_of_ge (hleast ⟨j, r', hr', (accepts_iff e record).mpr happlies', by rw [Nat.zero_add]⟩)
  · rintro ⟨r, hr, happlies, hleast⟩
    refine ⟨r.priority, ⟨i, r, hr, (accepts_iff e record).mpr happlies, by rw [Nat.zero_add]⟩, ?_⟩
    rintro c ⟨k, r', hr', happlies', rfl⟩
    rw [Nat.zero_add]
    exact not_lt.mp (hleast k r' hr' ((accepts_iff e record).mp happlies'))

theorem pick_eq_none_iff (rules : List ColorRule) :
    pick e rules record = none ↔ ∀ r ∈ rules, ¬ Applies e record r := by
  have hscan : pick e rules record = none ↔
      (none : Option (ℕ × ℤ)) = none ∧ ∀ r ∈ rules, accepts e record r = false := pickFrom_eq_none_iff
  rw [hscan, and_iff_right rfl]
  refine forall₂_congr fun r _ => ?_
  rw [← accepts_iff, Bool.not_eq_true]

end

end LogQuery.ColorRule
