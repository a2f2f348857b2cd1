import LogQuery.Proofs.Filter.Parsing

/-!
# Proofs.Filter.Canonical — the canonical text of a filter is a filter

A canonical text is not the text of its tree alone: a lone part loses its group, a negated group is
the negation of what stands in it, and a zero loses its sign. `Node.reread` is the tree that is read.

* `Node.need`: the levels that a part of a filter takes; a negated group takes two.
* `derives_tokens`: the grammar derives the tree that is read from the tokens of a filter.
* `nesting_tokens`: the tokens are nested as deeply as the filter needs.
* `read_canonical`: with enough levels the canonical text is read as the tree, made an expression.
-/

namespace LogQuery.Filter

/-! ## The tree that is read -/

mutual

/-- The tree that the canonical text of a filter is read as. -/
def Node.reread : Node → Node
  | .expression op negated first rest =>
    let body := joined op first.reread (rereadAll rest)
    if negated then body.not else body
  | .comparison c => .comparison c.plainZero
  | .search term => .search term
  | .alias name => .alias name

/-- The trees that the further parts of an expression are read as. -/
def rereadAll : List Node → List Node
  | [] => []
  | node :: nodes => node.reread :: rereadAll nodes

end

mutual

/-- The levels that the tokens of a part of a filter take. -/
def Node.need : Node → ℕ
  | .expression _ negated first rest =>
    max first.need (needAll rest) + (if negated then 2 else 1)
  | .comparison _ => 1
  | .search _ => 1
  | .alias _ => 1

/-- The levels that the further parts of an expression take. -/
def needAll : List Node → ℕ
  | [] => 0
  | node :: nodes => max node.need (needAll nodes)

end

/-- The levels that a whole filter takes: a plain expression at the root stands in no group. -/
def Node.rootNeed (n : Node) : ℕ := if n.isPlain then n.need - 1 else n.need

theorem exists_of_isPlain {n : Node} (h : n.isPlain = true) :
    ∃ op first nodes, n = .expression op false first nodes := by
  cases n with
  | expression op negated first nodes =>
    obtain rfl : negated = false := by simpa [Node.isPlain] using h
    exact ⟨op, first, nodes, rfl⟩
  | _ => exact absurd h (by simp [Node.isPlain])

theorem one_le_need : ∀ n : Node, 1 ≤ n.need
  | .expression _ negated _ _ => by
    rw [Node.need]
    split_ifs <;> omega
  | .comparison _ => Nat.le_refl 1
  | .search _ => Nat.le_refl 1
  | .alias _ => Nat.le_refl 1

/-! ## Leaves -/

section

variable {r : Reader}

theorem members_tokens {values : List String} (hne : values ≠ []) : Members (memberTokens values) values := by
  induction values with
  | nil => exact absurd rfl hne
  | cons s values ih =>
    cases values with
    | nil => exact .last rfl
    | cons s' values => exact .more rfl (ih (List.cons_ne_nil s' values))

/-- The tokens of a side are derived as the side, with its constant not yet typed. -/
theorem side_tokens {op : Comparator} {o : Operand} (h : r.Says op o) :
    Side.Derives r (o.tokens op) (o.untyped op) := by
  match o, h with
  | .field f, h => exact .field h.2
  | .rule name, h => exact .rule h.2.1 h.2.2
  | .literal (.text s), _ => exact .text s
  | .literal (.pattern p), h =>
    simp only [Operand.tokens, Literal.tokens, Operand.untyped, Literal.untyped]
    split_ifs
    · exact .text p.source
    · exact .pattern (ofSource?_eq_some_iff.mpr ⟨rfl, h.1⟩)
  | .literal (.date d), _ => exact .text d.canonical
  | .literal (.number .nan), h => exact .nan h.1 h.2
  | .literal (.number (.infinite negative)), _ => exact .number _
  | .literal (.number (.finite negative m)), _ => exact .number _
  | .literal (.boolean b), _ => exact .boolean b
  | .literal (.set []), _ => exact .emptySet
  | .literal (.set (s :: values)), _ => exact .set (members_tokens (List.cons_ne_nil s values))

/-- The tokens of a comparison are derived as the comparison, with plain zeros. -/
theorem comparison_tokens {c : Comparison} (h : r.Restates (.comparison c)) :
    c.plainZero.Derives r c.tokens := by
  obtain ⟨hleft, hright, htyped⟩ := h
  obtain ⟨left, right, hsides, hallowed, heq⟩ := comparisonOf_ok_iff.mp (htyped 0)
  have heq' : c.plainZero = ⟨left, c.op, right⟩ := Node.comparison.inj heq
  rw [heq']
  exact .of (side_tokens hleft) (side_tokens hright) hsides hallowed

/-! ## Expressions -/

/-- The parts of an expression are a filter. -/
theorem derives_body {op : Connective} {ts us : List Token} {n : Node} {nodes : List Node} (h : Unary r ts n)
    (h' : Further op (Unary r) us nodes) : Derives r (ts ++ us) (joined op n nodes) := by
  cases op with
  | and => exact .single (.of h h')
  | or => exact .of (.single h) (h'.mono fun _ _ => .single)

mutual

theorem unary_tokens : ∀ n : Node, (∀ leaf ∈ n.leaves, r.Restates leaf) →
    Unary r (groupedTokens n.isPlain n.tokens) n.reread
  | .expression op negated first nodes, h => by
    simp only [Node.leaves, List.forall_mem_append] at h
    have hbody := derives_body (unary_tokens first h.1) (further_tokens op nodes h.2)
    cases negated with
    | false => exact .group hbody
    | true => exact .not (.group hbody)
  | .comparison _, h => .leaf (.comparison (comparison_tokens (h _ List.mem_cons_self)))
  | .search term, _ => .leaf (.search term)
  | .alias name, h => by
    have hname : IsStored name := h _ List.mem_cons_self
    have halias := Leaf.alias (r := r) name
    rw [Node.aliasOf, hname.sanitize] at halias
    exact .leaf (by rwa [Node.tokens, hname.sanitize])

theorem further_tokens (op : Connective) : ∀ nodes : List Node, (∀ leaf ∈ leavesAll nodes, r.Restates leaf) →
    Further op (Unary r) (restTokens op nodes) (rereadAll nodes)
  | [], _ => .nil
  | node :: nodes, h => by
    simp only [leavesAll, List.forall_mem_append] at h
    exact .cons (unary_tokens node h.1) (further_tokens op nodes h.2)

end

/-- **The tokens of a filter are derived as the tree that is read again.** -/
theorem derives_tokens {n : Node} (h : ∀ leaf ∈ n.leaves, r.Restates leaf) : Derives r n.tokens n.reread := by
  cases hplain : n.isPlain with
  | false =>
    have hunary := unary_tokens n h
    rw [hplain] at hunary
    exact .single (.single hunary)
  | true =>
    obtain ⟨op, first, nodes, rfl⟩ := exists_of_isPlain hplain
    simp only [Node.leaves, List.forall_mem_append] at h
    exact derives_body (unary_tokens first h.1) (further_tokens op nodes h.2)

end

/-! ## Nesting -/

theorem isFlat_operand (op : Comparator) (o : Operand) : ∀ t ∈ o.tokens op, t.isFlat = true := by
  cases o with
  | literal l =>
    cases l with
    | pattern p =>
      simp only [Operand.tokens, Literal.tokens]
      split_ifs <;> simp [Token.isFlat]
    | number n => cases n <;> simp [Operand.tokens, Literal.tokens, Token.isFlat]
    | set values =>
      cases values with
      | nil => simp [Operand.tokens, Literal.tokens, memberTokens, Token.isFlat]
      | cons s values =>
        -- a set with members is derived by any reader
        exact (Side.Derives.set (r := ⟨fun _ => none, none, 0⟩) (members_tokens (List.cons_ne_nil s values))).isFlat
    | _ => simp [Operand.tokens, Literal.tokens, Token.isFlat]
  | _ => simp [Operand.tokens, Token.isFlat]

theorem isFlat_comparison (c : Comparison) : ∀ t ∈ c.tokens, t.isFlat = true := by
  simp only [Comparison.tokens, List.forall_mem_append, List.forall_mem_cons]
  exact ⟨isFlat_operand c.op c.left, rfl, isFlat_operand c.op c.right⟩

theorem nesting_body {ts us : List Token} {first : Node} {nodes : List Node}
    (hts : NestedBelow ts ∧ nesting ts = first.need)
    (hus : Nested us ∧ Ended us ∧ nesting us = max 1 (needAll nodes)) :
    Nested (ts ++ us) ∧ nesting (ts ++ us) = max first.need (needAll nodes) := by
  refine ⟨hts.1.nested.append hus.1 hus.2.1, ?_⟩
  have hone := one_le_need first
  rw [nesting_append hts.1.nested hus.2.1, hts.2, hus.2.2]
  omega

mutual

theorem nesting_grouped : ∀ n : Node, NestedBelow (groupedTokens n.isPlain n.tokens) ∧
    nesting (groupedTokens n.isPlain n.tokens) = n.need
  | .expression op negated first nodes => by
    obtain ⟨hbody, hneed⟩ := nesting_body (nesting_grouped first) (nesting_rest op nodes)
    have hgroup := nesting_group hbody
    rw [hneed] at hgroup
    cases negated with
    | false => exact ⟨hbody.group, hgroup⟩
    | true =>
      refine ⟨hbody.group.bang, (nesting_bang hbody.group).trans ?_⟩
      rw [hgroup]
      rfl
  | .comparison c => ⟨nestedBelow_flat (isFlat_comparison c), nesting_flat (isFlat_comparison c)⟩
  | .search term => ⟨nestedBelow_flat (by simp [Node.isPlain, groupedTokens, Node.tokens, Token.isFlat]), rfl⟩
  | .alias name => ⟨nestedBelow_flat (by simp [Node.isPlain, groupedTokens, Node.tokens, Token.isFlat]), rfl⟩

theorem nesting_rest (op : Connective) : ∀ nodes : List Node, Nested (restTokens op nodes) ∧
    Ended (restTokens op nodes) ∧ nesting (restTokens op nodes) = max 1 (needAll nodes)
  | [] => ⟨nested_nil, ended_nil, rfl⟩
  | node :: nodes => by
    obtain ⟨hnode, hneed⟩ := nesting_grouped node
    obtain ⟨hrest, hended, hneeds⟩ := nesting_rest op nodes
    have hfirst := hnode.nested.connective op
    refine ⟨hfirst.append hrest hended, ended_connective op _, ?_⟩
    have hone := one_le_need node
    rw [restTokens, nesting_append hfirst hended, nesting_connective, hneed, hneeds, needAll]
    omega

end

/-- The tokens of a filter are nested as deeply as the filter needs. -/
theorem nesting_tokens (n : Node) : nesting n.tokens = n.rootNeed := by
  unfold Node.rootNeed
  cases hplain : n.isPlain with
  | false =>
    have hneed := (nesting_grouped n).2
    rwa [hplain] at hneed
  | true =>
    obtain ⟨op, first, nodes, rfl⟩ := exists_of_isPlain hplain
    exact (nesting_body (nesting_grouped first) (nesting_rest op nodes)).2

/-- **A canonical text is read back.** With enough levels, the text of a filter whose leaves can be
restated is read as the filter itself, up to redundant groups and the sign of zeros. -/
theorem read_canonical {r : Reader} {n : Node} (hleaves : ∀ leaf ∈ n.leaves, r.Restates leaf)
    (hlevels : n.rootNeed ≤ max r.maxDepth 1) : r.read n.canonical = .ok n.reread.asExpression := by
  have hlex := lexes_node n (fun leaf hl => names_of_restates (hleaves leaf hl)) [] ends_nil
  rw [List.append_nil] at hlex
  obtain ⟨located, htokens, hlocated⟩ := hlex.ok 0
  refine read_ok_iff.mpr ⟨located, n.reread, ?_, ?_, ?_, rfl⟩
  · rw [Node.toList_canonical, hlocated]
  · rwa [tokensOf, htokens, nesting_tokens]
  · rw [tokensOf, htokens]
    exact derives_tokens hleaves

end LogQuery.Filter
