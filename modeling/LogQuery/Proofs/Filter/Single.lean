import LogQuery.Proofs.Filter.Equivalence

/-!
# Proofs.Filter.Single — the text of one comparison

A comparison by itself can be read in one way only: its tokens begin with the left side, go on with the
operator, and end with the right side. So what its canonical text is read as depends on nothing but the
sides, which are typed anew, and on the checks that are made of them.

* `Side.Derives.unique`: tokens begin with one side at most.
* `Derives.of_comparison`: what the tokens of a comparison stand for.
* `read_single_iff`: what its canonical text is read as, by every reader.
* `Operand.against`, `read_against_iff`: the same for a constant beside a side, where only the constant is
  typed anew.
-/

namespace LogQuery.Filter

/-! ## The tokens of a comparison -/

section

variable {r : Reader} {ts us : List Token}

/-- Tokens begin with one side at most. -/
theorem Side.Derives.unique {ts' us' : List Token} {a b : Operand} (ha : Side.Derives r ts a)
    (hb : Side.Derives r ts' b) (h : ts ++ us = ts' ++ us') : a = b ∧ us = us' := by
  have hread : ∀ {vs ws : List Token} {o : Operand}, Side.Derives r vs o → vs ++ ws = ts ++ us →
      ∀ {t located}, (ts ++ us).map (fun t => Located.mk t 0) = t :: located →
        r.operand t located = .ok (o, ws.map fun t => ⟨t, 0⟩) := by
    intro vs ws o ho heq t located hlocated
    have hvs : t :: located = (vs.map fun t => Located.mk t 0) ++ ws.map fun t => ⟨t, 0⟩ := by
      rw [← hlocated, ← heq, List.map_append]
    exact operand_complete hvs (by simpa [tokensOf, Function.comp_def] using ho)
  obtain ⟨t, located, hlocated⟩ := List.exists_cons_of_ne_nil
    (l := (ts ++ us).map fun t => Located.mk t 0) (by simp [ha.ne_nil])
  have heq := (hread ha rfl hlocated).symm.trans (hread hb h.symm hlocated)
  simp only [Except.ok.injEq, Prod.mk.injEq] at heq
  exact ⟨heq.1, List.map_injective_iff.mpr (fun t u htu => congrArg Located.token htu) heq.2⟩

/-- Tokens that lead to no other level are a leaf. -/
theorem Derives.leaf_of_isFlat {n : Node} (h : Derives r ts n) (hflat : ∀ t ∈ ts, t.isFlat = true) :
    Leaf r ts n := by
  have hone : ∀ {op : Connective} {Item : List Token → Node → Prop} {us : List Token} {m : Node},
      Chain op Item us m → (∀ t ∈ us, t.isFlat = true) → Item us m := by
    intro op Item us m hchain hus
    cases hchain with
    | of hitem hfurther =>
      cases hfurther with
      | nil => rwa [List.append_nil]
      | cons =>
        have hop := hus (.connective op) (by simp)
        exact absurd hop (by simp [Token.isFlat])
  cases hone (hone h hflat) hflat with
  | not =>
    have hbang := hflat .bang List.mem_cons_self
    exact absurd hbang (by simp [Token.isFlat])
  | group =>
    have hparen := hflat .leftParen List.mem_cons_self
    exact absurd hparen (by simp [Token.isFlat])
  | leaf h => exact h

/-- The tokens of a comparison stand for nothing but a comparison of its sides, typed anew. -/
theorem Derives.of_comparison {c : Comparison} {n : Node} (h : Derives r c.tokens n)
    (hnames : r.Names (.comparison c)) : ∃ left right,
      TypedSides c.op (c.left.untyped c.op) (c.right.untyped c.op) left right ∧ Allowed left c.op right ∧
        n = .compare left c.op right := by
  obtain ⟨hleft, hright⟩ := hnames
  have hne : ∀ t, c.tokens ≠ [t] := by
    intro t heq
    have hlength := congrArg List.length heq
    have hpos := List.length_pos_of_ne_nil (side_tokens hleft).ne_nil
    simp [Comparison.tokens] at hlength
    omega
  have hleaf := h.leaf_of_isFlat (isFlat_comparison c)
  generalize htokens : c.tokens = ts at hleaf
  cases hleaf with
  | comparison hc =>
    cases hc with
    | of ha hb htyped hallowed =>
      obtain ⟨rfl, hmore⟩ := (side_tokens hleft).unique ha htokens
      obtain ⟨hop, hus⟩ := List.cons.inj hmore
      obtain rfl := Token.comparator.inj hop
      obtain ⟨rfl, -⟩ := (side_tokens hright).unique hb (congrArg (· ++ []) hus)
      exact ⟨_, _, htyped, hallowed, rfl⟩
  | _ => exact absurd htokens (hne _)

/-! ## Its text -/

/-- **The text of a comparison is read as the comparison of its sides, typed anew**, if they may be compared.
One comparison takes one level, which every reader has. -/
theorem read_single_iff {c : Comparison} (hnames : r.Names (.comparison c)) {t : Node} :
    r.read (single c).canonical = .ok t ↔ ∃ left right,
      TypedSides c.op (c.left.untyped c.op) (c.right.untyped c.op) left right ∧ Allowed left c.op right ∧
        t = single ⟨left, c.op, right⟩ := by
  have hleaves : ∀ leaf ∈ (single c).leaves, r.Names leaf := by
    intro leaf hl
    obtain rfl := List.mem_singleton.mp (leaves_single c ▸ hl)
    exact hnames
  have htokens : (single c).tokens = c.tokens := List.append_nil _
  have hlex := lexes_node (single c) hleaves [] ends_nil
  rw [List.append_nil, htokens] at hlex
  obtain ⟨located, hlocated, hchars⟩ := hlex.ok 0
  have hlocated : tokensOf located = c.tokens := hlocated
  rw [← Node.toList_canonical] at hchars
  constructor
  · intro h
    obtain ⟨located', n, hlex', -, hderives, rfl⟩ := read_ok_iff.mp h
    rw [hchars, Except.ok.injEq] at hlex'
    rw [← hlex', hlocated] at hderives
    obtain ⟨left, right, htyped, hallowed, rfl⟩ := hderives.of_comparison hnames
    exact ⟨left, right, htyped, hallowed, rfl⟩
  · rintro ⟨left, right, htyped, hallowed, rfl⟩
    have hleaf : Leaf r c.tokens (.compare left c.op right) :=
      .comparison (.of (side_tokens hnames.1) (side_tokens hnames.2) htyped hallowed)
    have hlevel : nesting (tokensOf located) ≤ max r.maxDepth 1 := by
      rw [hlocated, hleaf.nesting_eq]
      exact le_max_right r.maxDepth 1
    refine read_ok_iff.mpr ⟨located, .compare left c.op right, hchars, hlevel, ?_, rfl⟩
    rw [hlocated]
    exact .single (.single (.leaf hleaf))

end

/-! ## A constant beside a side -/

/-- The comparison of a side with a constant. The sides may be swapped, and the operator with them. -/
def Operand.against (o : Operand) (op : Comparator) (l : Literal) (swapped : Bool) : Comparison :=
  if swapped then ⟨.literal l, op.mirrored, o⟩ else ⟨o, op, .literal l⟩

/-- A constant beside a side is typed as another one. Only a field types constants. -/
def Retyped (o : Operand) (op : Comparator) (l l' : Literal) : Prop :=
  match o with
  | .field f => Typed f op l l'
  | _ => l' = l

theorem untyped_mirrored (op : Comparator) (l : Literal) : l.untyped op.mirrored = l.untyped op := by
  cases l <;> simp [Literal.untyped, mirrored_eq_matches]

section

variable {op : Comparator} {a b left right o : Operand} {l : Literal}

/-- Swapped sides are typed as the same sides, swapped. -/
theorem TypedSides.swap (h : TypedSides op a b left right) : TypedSides op.mirrored b a right left := by
  cases h with
  | right h => exact .left (op.mirrored_mirrored.symm ▸ h)
  | left h => exact .right h
  | fields f g => exact .fields g f
  | ruleLeft name => exact .ruleRight _ name
  | ruleRight _ name => exact .ruleLeft name _

theorem typedSides_swap_iff : TypedSides op.mirrored b a right left ↔ TypedSides op a b left right :=
  ⟨fun h => op.mirrored_mirrored ▸ h.swap, TypedSides.swap⟩

theorem typedSides_literal_iff (ho : ∀ l, o ≠ .literal l) :
    TypedSides op o (.literal l) left right ↔ ∃ l', Retyped o op l l' ∧ left = o ∧ right = .literal l' := by
  cases o with
  | literal l' => exact absurd rfl (ho l')
  | field f =>
    constructor
    · intro h
      cases h with
      | right h => exact ⟨_, h, rfl, rfl⟩
    · rintro ⟨l', h, rfl, rfl⟩
      exact .right h
  | rule name =>
    constructor
    · intro h
      cases h with
      | ruleLeft => exact ⟨l, rfl, rfl, rfl⟩
    · rintro ⟨l', rfl, rfl, rfl⟩
      exact .ruleLeft name _

/-- What the sides are typed as has the constant on the same side. -/
theorem typedSides_against_iff (ho : ∀ l, o ≠ .literal l) (swapped : Bool) :
    TypedSides (o.against op l swapped).op ((o.against op l swapped).left.untyped (o.against op l swapped).op)
        ((o.against op l swapped).right.untyped (o.against op l swapped).op) left right ↔
      ∃ l', Retyped o op (l.untyped op) l' ∧
        ⟨left, (o.against op l swapped).op, right⟩ = o.against op l' swapped := by
  have hside : ∀ op, o.untyped op = o := by
    intro op
    cases o with
    | literal l' => exact absurd rfl (ho l')
    | _ => rfl
  cases swapped with
  | false =>
    have hliteral : (Operand.literal l).untyped op = .literal (l.untyped op) := rfl
    simp [Operand.against, hside, hliteral, typedSides_literal_iff ho]
  | true =>
    have hliteral : (Operand.literal l).untyped op.mirrored = .literal (l.untyped op) :=
      congrArg Operand.literal (untyped_mirrored op l)
    simp [Operand.against, hside, hliteral, typedSides_swap_iff, typedSides_literal_iff ho, and_comm]

/-- **The text of a comparison with a constant is read as one**, with the constant typed anew. -/
theorem read_against_iff {r : Reader} (ho : ∀ l, o ≠ .literal l) (swapped : Bool)
    (hnames : r.Names (.comparison (o.against op l swapped))) {t : Node} :
    r.read (single (o.against op l swapped)).canonical = .ok t ↔ ∃ l', Retyped o op (l.untyped op) l' ∧
      Allowed (o.against op l' swapped).left (o.against op l' swapped).op (o.against op l' swapped).right ∧
        t = single (o.against op l' swapped) := by
  rw [read_single_iff hnames]
  constructor
  · rintro ⟨left, right, htyped, hallowed, rfl⟩
    obtain ⟨l', hretyped, heq⟩ := (typedSides_against_iff ho swapped).mp htyped
    have hmade : ∀ c' : Comparison, ⟨left, (o.against op l swapped).op, right⟩ = c' →
        Allowed c'.left c'.op c'.right := by
      rintro _ rfl
      exact hallowed
    exact ⟨l', hretyped, hmade _ heq, congrArg single heq⟩
  · rintro ⟨l', hretyped, hallowed, rfl⟩
    have hop : (o.against op l' swapped).op = (o.against op l swapped).op := by cases swapped <;> rfl
    rw [hop] at hallowed
    refine ⟨_, _, (typedSides_against_iff ho swapped).mpr ⟨l', hretyped, ?_⟩, hallowed, ?_⟩
    · rw [← hop]
    · rw [← hop]

end

end LogQuery.Filter
