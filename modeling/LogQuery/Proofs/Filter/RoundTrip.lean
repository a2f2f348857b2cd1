import LogQuery.Proofs.Filter.Image

/-!
# Proofs.Filter.RoundTrip — what was read is read again from its canonical text

* `Node.agrees`: equality of filters in which numbers count by value, and a NaN equals itself.
* `agrees_reread`: a regular tree is read as itself.
* `read_canonical_of_read`: the round trip for every text that is read, with twice the levels.
-/

namespace LogQuery

/-- Equality of numbers by value, with a NaN equal to itself. -/
def Number.agrees (a b : Number) : Bool := a.equals b || (a == .nan && b == .nan)

theorem Number.agrees_plainZero (n : Number) : n.agrees n.plainZero = true := by
  cases n with
  | nan => rfl
  | infinite negative => cases negative <;> rfl
  | finite negative m =>
    simp [agrees, equals, compare?, plainZero, signedUnits_plainZero]

namespace Filter

/-! ## Agreement of trees -/

/-- Equality of constants, with numbers by value. -/
def Literal.agrees : Literal → Literal → Bool
  | .number a, .number b => a.agrees b
  | a, b => a == b

/-- Equality of sides, with numbers by value. -/
def Operand.agrees : Operand → Operand → Bool
  | .literal a, .literal b => a.agrees b
  | a, b => a == b

/-- Equality of comparisons, with numbers by value. -/
def Comparison.agrees (a b : Comparison) : Bool :=
  a.left.agrees b.left && a.op == b.op && a.right.agrees b.right

mutual

/-- Equality of filters, with numbers by value and a NaN equal to itself. -/
def Node.agrees : Node → Node → Bool
  | .expression op negated first rest, .expression op' negated' first' rest' =>
    op == op' && negated == negated' && first.agrees first' && agreesAll rest rest'
  | .comparison a, .comparison b => a.agrees b
  | .search a, .search b => a == b
  | .alias a, .alias b => a == b
  | _, _ => false

/-- Equality of lists of filters, part by part. -/
def agreesAll : List Node → List Node → Bool
  | [], [] => true
  | a :: as, b :: bs => a.agrees b && agreesAll as bs
  | _, _ => false

end

theorem Comparison.agrees_plainZero (c : Comparison) : c.agrees c.plainZero = true := by
  have hside : ∀ o : Operand, o.agrees o.plainZero = true := by
    intro o
    rcases o with f | l | name
    · exact beq_self_eq_true (Operand.field f)
    · cases l with
      | number n => exact n.agrees_plainZero
      | _ => exact beq_self_eq_true _
    · exact beq_self_eq_true (Operand.rule name)
  simp [agrees, Comparison.plainZero, hside]

/-! ## Regular trees -/

theorem isPlain_not (n : Node) : n.not.isPlain = false := by
  cases n with
  | expression op negated first rest => cases negated <;> rfl
  | _ => rfl

theorem not_eq_of_not_isPlain {n : Node} (h : n.isPlain = false) :
    n.not = .expression .and true n [] := by
  cases n with
  | expression op negated first rest =>
    obtain rfl : negated = true := by simpa [Node.isPlain] using h
    rfl
  | _ => rfl

theorem isPlain_reread {n : Node} (h : n.isPlain = false) : n.reread.isPlain = false := by
  cases n with
  | expression op negated first rest =>
    obtain rfl : negated = true := by simpa [Node.isPlain] using h
    simp only [Node.reread, if_true]
    exact isPlain_not _
  | _ => rfl

mutual

/-- A regular tree is the tree that its canonical text is read as. -/
theorem agrees_reread : ∀ n : Node, n.Regular → n.agrees n.reread = true
  | .expression op negated first [], h => by
    obtain ⟨hfirst, -, hone⟩ := h
    obtain ⟨rfl, rfl, hplain⟩ := hone rfl
    simp only [Node.reread, rereadAll, joined, if_true,
      not_eq_of_not_isPlain (isPlain_reread hplain), Node.agrees, agreesAll, beq_self_eq_true,
      agrees_reread first hfirst, Bool.and_self]
  | .expression op negated first (node :: nodes), h => by
    obtain ⟨hfirst, hrest, -⟩ := h
    have hnodes := agreesAll_reread (node :: nodes) hrest
    rw [rereadAll] at hnodes
    cases negated <;>
      simp only [Node.reread, rereadAll, joined, if_true, Bool.false_eq_true, if_false, Node.not,
        Node.agrees, beq_self_eq_true, agrees_reread first hfirst, hnodes, Bool.and_self]
  | .comparison c, _ => c.agrees_plainZero
  | .search term, _ => beq_self_eq_true term
  | .alias name, _ => beq_self_eq_true name

theorem agreesAll_reread : ∀ nodes : List Node, RegularAll nodes →
    agreesAll nodes (rereadAll nodes) = true
  | [], _ => rfl
  | node :: nodes, h => by
    rw [rereadAll, agreesAll, agrees_reread node h.1, agreesAll_reread nodes h.2, Bool.and_self]

end

/-! ## The round trip -/

theorem rootNeed_asExpression {n : Node} {bound : ℕ} (hb : 1 ≤ bound) (h : n.rootNeed ≤ bound) :
    n.asExpression.rootNeed ≤ bound := by
  cases n with
  | expression => exact h
  | _ => simpa [Node.asExpression, Node.rootNeed, Node.isPlain, Node.need, needAll] using hb

theorem agrees_reread_asExpression {n : Node} (h : n.Regular) :
    n.asExpression.agrees n.asExpression.reread.asExpression = true := by
  have hagrees := agrees_reread n h
  cases n with
  | expression op negated first rest =>
    rw [Node.asExpression]
    cases hreread : (Node.expression op negated first rest).reread with
    | expression op' negated' first' rest' =>
      rw [hreread] at hagrees
      exact hagrees
    | _ =>
      rw [hreread] at hagrees
      exact absurd hagrees (by simp [Node.agrees])
  | comparison c =>
    simpa [Node.asExpression, Node.reread, rereadAll, joined, Node.agrees, agreesAll] using hagrees
  | search term => simp [Node.asExpression, Node.reread, rereadAll, joined, Node.agrees, agreesAll]
  | «alias» name => simp [Node.asExpression, Node.reread, rereadAll, joined, Node.agrees, agreesAll]

/-- **Round trip.** Whatever the reader reads with `d` levels, it reads again from the canonical text
with `2 * d` levels, and the trees agree. Dates in the tree have to lie in the years `0` to `9999`, and
no saved filter may be matched with a pattern. -/
theorem read_canonical_of_read {catalog : Catalog} {registry : Option Registry} {d : ℕ} (hd : 1 ≤ d)
    {text : String} {t : Node} (h : (Reader.mk catalog registry d).read text = .ok t)
    (hw : ∀ leaf ∈ t.leaves, leaf.Writable) :
    ∃ t', (Reader.mk catalog registry (2 * d)).read t.canonical = .ok t' ∧ t.agrees t' = true := by
  obtain ⟨n, rfl, hleaves, hregular, hroot⟩ := read_sound h
  rw [leaves_asExpression] at hw
  have hmax : max d 1 = d := max_eq_left hd
  rw [hmax] at hroot
  have hneed : n.asExpression.rootNeed ≤ max (2 * d) 1 :=
    (rootNeed_asExpression (by omega) hroot).trans (le_max_left _ _)
  refine ⟨n.asExpression.reread.asExpression, read_canonical ?_ hneed, agrees_reread_asExpression hregular⟩
  rw [leaves_asExpression]
  -- what can be restated does not depend on the limit on levels
  exact fun leaf hl => hleaves leaf hl (hw leaf hl)

/-- A catalog with one field, which holds dates. -/
def dateCatalog : Catalog := fun name => if name = "at" then some .date else none

/-- The first instant of the year 2024. -/
def newYear : Instant := ⟨⟨2024, 1, 1, by decide⟩, 0, 0, by decide⟩

/-- A negated group beside a comparison with a date; the group takes three levels. -/
def datedFilter : Node :=
  .expression .or false (.compare (.field ⟨"at", .date⟩) .less (.literal (.date newYear)))
    [.expression .and true (.search "boot") [.alias "slow"]]

theorem read_canonical_of_read_dated :
    1 ≤ 3 ∧ (Reader.mk dateCatalog none 3).read
        "at < \"2024-01-01 00:00:00Z\" || !('boot' && #slow)" = .ok datedFilter ∧
      (∀ leaf ∈ datedFilter.leaves, leaf.Writable) ∧
      ∃ t', (Reader.mk dateCatalog none (2 * 3)).read datedFilter.canonical = .ok t' ∧
        datedFilter.agrees t' = true := by
  have hread : (Reader.mk dateCatalog none 3).read
      "at < \"2024-01-01 00:00:00Z\" || !('boot' && #slow)" = .ok datedFilter := by cbv
  have hw : ∀ leaf ∈ datedFilter.leaves, leaf.Writable := by
    have hdate : (Node.compare (.field ⟨"at", .date⟩) .less (.literal (.date newYear))).Writable :=
      ⟨trivial, (by decide : (0 : ℤ) ≤ 2024 ∧ (2024 : ℤ) ≤ 9999), rfl⟩
    simp only [datedFilter, Node.leaves, leavesAll, List.forall_mem_append]
    refine ⟨fun leaf hl => ?_, ⟨⟨?_, ?_⟩, ?_⟩⟩
    · rw [List.mem_singleton.mp hl]; exact hdate
    all_goals simp [Node.Writable]
  exact ⟨by decide, hread, hw, read_canonical_of_read (by decide) hread hw⟩

end Filter

end LogQuery
