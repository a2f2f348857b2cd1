import LogQuery.Proofs.Filter.Nesting

/-!
# Proofs.Filter.Parsing — the reader reads what the grammar derives

The reader decides with one token ahead and never goes back. That this loses nothing rests on what may
follow an item: in front of it, a derivation and a run of the reader take the same tokens.

* `Parses`: an item is read exactly where it is derived.
* `leaf_parses`, `chain_parses`, `unary_parses`: each reading function, the last by induction on the
  levels that are left.
* `readAll_ok_iff`: a list of tokens is read if it is derived and not nested too deeply.
-/

namespace LogQuery.Filter

/-- The item is read where it is derived, in front of what may follow. -/
structure Parses (item : Reading Node) (Item : List Token → Node → Prop) (Follow : List Located → Prop) :
    Prop where
  sound : ∀ {ts rest : List Located} {n : Node}, item ts = .ok (n, rest) →
    ∃ us, ts = us ++ rest ∧ Item (tokensOf us) n
  complete : ∀ {us rest : List Located} {n : Node}, Item (tokensOf us) n → Follow rest →
    item (us ++ rest) = .ok (n, rest)

/-! ## Leaves -/

section

variable {r : Reader}

theorem bareName_ok_iff {name : String} {ts rest : List Located} {n : Node} :
    r.bareName name ts = .ok (n, rest) ↔ ts = rest ∧
      (r.catalog name = some .boolean ∧
          n = .compare (.field ⟨name, .boolean⟩) .equal (.literal (.boolean true)) ∨
        r.catalog name = none ∧ r.isRule name = true ∧ n = .aliasOf name) := by
  unfold Reader.bareName
  cases hcatalog : r.catalog name with
  | none =>
    cases hrule : r.isRule name with
    | false => simp
    | true => simpa using ⟨fun h => ⟨h.2, h.1.symm⟩, fun h => ⟨h.2.symm, h.1⟩⟩
  | some type =>
    cases type with
    | boolean => simpa using ⟨fun h => ⟨h.2, h.1.symm⟩, fun h => ⟨h.2.symm, h.1⟩⟩
    | _ => cases ts <;> simp

/-- What a leaf was read from. -/
theorem leaf_cases {t : Located} {ts rest : List Located} {n : Node} (h : r.leaf (t :: ts) = .ok (n, rest)) :
    (∃ name, t.token = .alias name ∧ n = .aliasOf name ∧ ts = rest) ∨
    (∃ s, t.token = .text s ∧ n = .search s ∧ ts = rest) ∨
    (∃ name, t.token = .word name ∧ r.bareName name ts = .ok (n, rest)) ∨
    r.comparison t ts = .ok (n, rest) := by
  obtain ⟨token, position⟩ := t
  cases token with
  | «alias» name =>
    simp only [Reader.leaf, Except.ok.injEq, Prod.mk.injEq] at h
    exact .inl ⟨name, rfl, h.1.symm, h.2⟩
  | text s =>
    cases hat : atComparator ts with
    | true => exact .inr (.inr (.inr (by simpa only [Reader.leaf, hat] using h)))
    | false =>
      simp only [Reader.leaf, hat, Except.ok.injEq, Prod.mk.injEq] at h
      exact .inr (.inl ⟨s, rfl, h.1.symm, h.2⟩)
  | word name =>
    cases hat : atComparator ts with
    | true => exact .inr (.inr (.inr (by simpa only [Reader.leaf, hat] using h)))
    | false => exact .inr (.inr (.inl ⟨name, rfl, by simpa only [Reader.leaf, hat] using h⟩))
  | _ => exact .inr (.inr (.inr h))

theorem leaf_parses : Parses r.leaf (Leaf r) Bounded where
  sound := by
    intro ts rest n h
    cases ts with
    | nil => exact nomatch h
    | cons t ts =>
      have hone : ∀ {token : Token}, t.token = token → ts = rest → Leaf r [token] n →
          ∃ us, t :: ts = us ++ rest ∧ Leaf r (tokensOf us) n := by
        rintro token rfl rfl hleaf
        exact ⟨[t], rfl, hleaf⟩
      rcases leaf_cases h with ⟨name, ht, rfl, hts⟩ | ⟨s, ht, rfl, hts⟩ | ⟨name, ht, hname⟩ | hcomparison
      · exact hone ht hts (.alias name)
      · exact hone ht hts (.search s)
      · obtain ⟨hts, ⟨hcatalog, rfl⟩ | ⟨hcatalog, hrule, rfl⟩⟩ := bareName_ok_iff.mp hname
        · exact hone ht hts (.boolean hcatalog)
        · exact hone ht hts (.rule hcatalog hrule)
      · obtain ⟨us, c, hus, hc, rfl⟩ := comparison_ok_iff.mp hcomparison
        exact ⟨us, hus, .comparison hc⟩
  complete := by
    intro us rest n h hrest
    have hat := hrest.atComparator
    generalize htokens : tokensOf us = tokens at h
    cases h with
    | «alias» name =>
      obtain ⟨position, rfl⟩ := eq_singleton_of_tokensOf htokens
      rfl
    | search s =>
      obtain ⟨position, rfl⟩ := eq_singleton_of_tokensOf htokens
      simp only [List.cons_append, List.nil_append, Reader.leaf, hat]
    | boolean hcatalog =>
      obtain ⟨position, rfl⟩ := eq_singleton_of_tokensOf htokens
      simp only [List.cons_append, List.nil_append, Reader.leaf, hat]
      exact bareName_ok_iff.mpr ⟨rfl, .inl ⟨hcatalog, rfl⟩⟩
    | rule hcatalog hrule =>
      obtain ⟨position, rfl⟩ := eq_singleton_of_tokensOf htokens
      simp only [List.cons_append, List.nil_append, Reader.leaf, hat]
      exact bareName_ok_iff.mpr ⟨rfl, .inr ⟨hcatalog, hrule, rfl⟩⟩
    | comparison hc =>
      subst htokens
      obtain ⟨t, ts, rfl⟩ := List.exists_cons_of_ne_nil fun e : us = [] => hc.ne_nil (by rw [e]; rfl)
      have hread : r.comparison t (ts ++ rest) = .ok (.comparison _, rest) :=
        comparison_ok_iff.mpr ⟨t :: ts, _, rfl, hc, rfl⟩
      -- the operator of the comparison is the token ahead
      obtain ⟨left, op, position, u, us, right, hl, -, -⟩ := comparison_ok hread
      exact (leaf_eq_comparison hl rfl).trans hread

end

/-! ## Chains -/

section

variable {op : Connective} {item : Reading Node} {Item : List Token → Node → Prop}
  {Inner Outer : List Located → Prop}

theorem chain_ok_iff {ts rest : List Located} {n : Node} : chain op item ts = .ok (n, rest) ↔
    ∃ first ts₁ nodes, item ts = .ok (first, ts₁) ∧
      chainRest op item ts₁.length ts₁ = .ok (nodes, rest) ∧ n = joined op first nodes := by
  constructor
  · intro h
    rw [chain] at h
    obtain ⟨⟨first, ts₁⟩, hread, h⟩ := bind_eq_ok.mp h
    obtain ⟨⟨nodes, rest'⟩, hmore, h⟩ := bind_eq_ok.mp h
    refine ⟨first, ts₁, nodes, hread, ?_⟩
    cases nodes with
    | nil =>
      obtain ⟨rfl, rfl⟩ := Prod.mk.inj (Except.ok.inj h)
      exact ⟨hmore, rfl⟩
    | cons node nodes =>
      obtain ⟨rfl, rfl⟩ := Prod.mk.inj (Except.ok.inj h)
      exact ⟨hmore, rfl⟩
  · rintro ⟨first, ts₁, nodes, hread, hmore, rfl⟩
    simp only [chain, hread, bind, Except.bind, hmore]
    cases nodes <;> rfl

theorem chainRest_ok {fuel : ℕ} (hitem : Parses item Item Inner) {ts rest : List Located} {nodes : List Node}
    (h : chainRest op item fuel ts = .ok (nodes, rest)) :
    ∃ us, ts = us ++ rest ∧ Further op Item (tokensOf us) nodes := by
  have hstop : ∀ {ts rest : List Located} {nodes : List Node},
      (Except.ok ([], ts) : Except ReadError (List Node × List Located)) = .ok (nodes, rest) →
      ∃ us, ts = us ++ rest ∧ Further op Item (tokensOf us) nodes := by
    intro ts rest nodes h
    obtain ⟨rfl, rfl⟩ := Prod.mk.inj (Except.ok.inj h)
    exact ⟨[], rfl, .nil⟩
  induction fuel generalizing ts rest nodes with
  | zero => exact hstop h
  | succ fuel ih =>
    unfold chainRest at h
    split at h
    · rename_i op' position ts'
      split_ifs at h with hop
      · obtain ⟨⟨node, ts₁⟩, hread, h⟩ := bind_eq_ok.mp h
        obtain ⟨⟨nodes', rest'⟩, hmore, h⟩ := bind_eq_ok.mp h
        obtain ⟨rfl, rfl⟩ := Prod.mk.inj (Except.ok.inj h)
        obtain ⟨us, rfl, hus⟩ := hitem.sound hread
        obtain ⟨vs, rfl, hfurther⟩ := ih hmore
        refine ⟨⟨.connective op', position⟩ :: us ++ vs, by simp, ?_⟩
        rw [tokensOf_append, tokensOf_cons, hop]
        exact .cons hus hfurther
      · exact hstop h
    · exact hstop h

variable (hnext : ∀ position ts, Inner (⟨.connective op, position⟩ :: ts)) (hlast : ∀ ts, Outer ts → Inner ts)

include hnext hlast in
/-- In front of the further items of a chain, or of what follows the chain, an item ends. -/
theorem Further.inner {us rest : List Located} {nodes : List Node} (h : Further op Item (tokensOf us) nodes)
    (hrest : Outer rest) : Inner (us ++ rest) := by
  generalize htokens : tokensOf us = tokens at h
  cases h with
  | nil =>
    obtain rfl := eq_nil_of_tokensOf htokens
    exact hlast rest hrest
  | cons h h' =>
    obtain ⟨position, us, rfl, -⟩ := exists_of_tokensOf_cons htokens
    exact hnext position (us ++ rest)

variable (hstop : ∀ ts, Outer ts → ∀ t ∈ ts.head?, t.token ≠ .connective op)

include hnext hlast hstop

theorem Further.read (hitem : Parses item Item Inner) {us rest : List Located} {nodes : List Node}
    (h : Further op Item (tokensOf us) nodes) (hrest : Outer rest) {fuel : ℕ} (hfuel : us.length ≤ fuel) :
    chainRest op item fuel (us ++ rest) = .ok (nodes, rest) := by
  generalize htokens : tokensOf us = tokens at h
  induction h generalizing us fuel with
  | nil =>
    obtain rfl := eq_nil_of_tokensOf htokens
    exact chainRest_stop (hstop rest hrest) fuel
  | cons h h' ih =>
    obtain ⟨position, us, rfl, hus⟩ := exists_of_tokensOf_cons htokens
    obtain ⟨vs, ws, rfl, rfl, rfl⟩ := List.map_eq_append_iff.mp hus
    obtain ⟨fuel, rfl⟩ : ∃ k, fuel = k + 1 := ⟨fuel - 1, by simp at hfuel; omega⟩
    have hread := hitem.complete h (h'.inner hnext hlast hrest)
    have hmore : chainRest op item fuel (ws ++ rest) = .ok (_, rest) := ih (by simp at hfuel; omega) rfl
    simp only [List.cons_append, List.append_assoc, chainRest, if_true, hread, bind, Except.bind, hmore]
    rfl

/-- A chain is read to its end, if what follows an item can be told from what follows the chain. -/
theorem chain_parses (hitem : Parses item Item Inner) : Parses (chain op item) (Chain op Item) Outer where
  sound := by
    intro ts rest n h
    obtain ⟨first, ts₁, nodes, hread, hmore, rfl⟩ := chain_ok_iff.mp h
    obtain ⟨us, rfl, hus⟩ := hitem.sound hread
    obtain ⟨vs, rfl, hvs⟩ := chainRest_ok hitem hmore
    refine ⟨us ++ vs, (List.append_assoc _ _ _).symm, ?_⟩
    rw [tokensOf_append]
    exact .of hus hvs
  complete := by
    intro us rest n h hrest
    generalize htokens : tokensOf us = tokens at h
    cases h with
    | of h h' =>
      obtain ⟨vs, ws, rfl, rfl, rfl⟩ := List.map_eq_append_iff.mp htokens
      have hread := hitem.complete h (h'.inner hnext hlast hrest)
      have hmore := h'.read hnext hlast hstop hitem hrest
        (List.length_append ▸ Nat.le_add_right ws.length rest.length)
      exact chain_ok_iff.mpr ⟨_, _, _, by rw [List.append_assoc, hread], hmore, rfl⟩

end

section

variable {unary : Reading Node} {Item : List Token → Node → Prop}

theorem conjunction_parses (h : Parses unary Item Bounded) :
    Parses (chain .and unary) (Chain .and Item) (Follows .or) := by
  refine chain_parses (fun position ts => ?_) (fun ts hts => hts.bounded) ?_ h
  · exact (follows_connective .and position ts).bounded
  · intro ts hts t ht e
    rcases hts t ht with h | h <;> rw [h] at e <;> simp at e

theorem disjunction_parses (h : Parses unary Item Bounded) :
    Parses (disjunction unary) (Chain .or (Chain .and Item)) Closed :=
  chain_parses (follows_connective .or) (fun _ hts => hts.follows .or) (fun _ hts => hts.ne_connective)
    (conjunction_parses h)

end

/-! ## Operands and filters -/

section

variable {s : Scope}

/-- A filter is read as deeply as its operands are. -/
theorem filter_parses {levels : ℕ}
    (h : Parses (s.unary levels) (fun us n => Unary s.reader us n ∧ nesting us ≤ levels) Bounded) :
    Parses (disjunction (s.unary levels)) (fun us n => Derives s.reader us n ∧ nesting us ≤ levels) Closed where
  sound := fun h' => ((disjunction_parses h).sound h').imp fun _ hus => ⟨hus.1, derives_bounded_iff.mp hus.2⟩
  complete := fun h' => (disjunction_parses h).complete (derives_bounded_iff.mpr h')

section

variable {levels : ℕ}
  (ih : Parses (s.unary levels) (fun us n => Unary s.reader us n ∧ nesting us ≤ levels) Bounded)

include ih

theorem unary_succ_sound {ts rest : List Located} {n : Node} (h : s.unary (levels + 1) ts = .ok (n, rest)) :
    ∃ us, ts = us ++ rest ∧ Unary s.reader (tokensOf us) n ∧ nesting (tokensOf us) ≤ levels + 1 := by
  unfold Scope.unary at h
  split at h
  · rename_i position ts
    obtain ⟨⟨node, rest'⟩, hread, heq⟩ := map_eq_ok.mp h
    obtain ⟨rfl, rfl⟩ := Prod.mk.inj heq
    obtain ⟨us, rfl, hus, hlevel⟩ := ih.sound hread
    refine ⟨⟨.bang, position⟩ :: us, rfl, .not hus, ?_⟩
    rw [tokensOf_cons, nesting_bang hus.nestedBelow]
    omega
  · rename_i position ts
    obtain ⟨⟨node, ts₁⟩, hread, hclose⟩ := bind_eq_ok.mp h
    obtain ⟨us, rfl, hus, hlevel⟩ := (filter_parses ih).sound hread
    obtain ⟨rfl, position', rfl⟩ := closeGroup_ok_iff.mp hclose
    refine ⟨⟨.leftParen, position⟩ :: us ++ [⟨.rightParen, position'⟩], by simp, ?_⟩
    rw [tokensOf_append, tokensOf_cons]
    have hnesting := nesting_group hus.nested
    exact ⟨.group hus, hnesting.trans_le (Nat.succ_le_succ hlevel)⟩
  · obtain ⟨us, hus, hleaf⟩ := leaf_parses.sound h
    exact ⟨us, hus, .leaf hleaf, hleaf.nesting_eq.trans_le (Nat.le_add_left 1 levels)⟩

theorem unary_succ_complete {us rest : List Located} {n : Node} (h : Unary s.reader (tokensOf us) n)
    (hlevel : nesting (tokensOf us) ≤ levels + 1) (hrest : Bounded rest) :
    s.unary (levels + 1) (us ++ rest) = .ok (n, rest) := by
  generalize htokens : tokensOf us = tokens at h hlevel
  cases h with
  | not h =>
    obtain ⟨position, us, rfl, rfl⟩ := exists_of_tokensOf_cons htokens
    rw [nesting_bang h.nestedBelow] at hlevel
    have hread := ih.complete ⟨h, Nat.le_of_succ_le_succ hlevel⟩ hrest
    rw [List.cons_append, unary_bang, hread]
    rfl
  | group h =>
    rw [nesting_group (Derives.nested h)] at hlevel
    refine group_reads (fun located rest' hlocated hrest' => ?_) htokens rest
    refine (filter_parses ih).complete ?_ hrest'
    rw [hlocated]
    exact ⟨h, Nat.le_of_succ_le_succ hlevel⟩
  | leaf h => exact unary_of_leaf (leaf_parses.complete (htokens ▸ h) hrest) levels

end

/-- **Negations and groups are read as they are derived**, as long as levels are left for them. -/
theorem unary_parses (levels : ℕ) :
    Parses (s.unary levels) (fun us n => Unary s.reader us n ∧ nesting us ≤ levels) Bounded := by
  induction levels with
  | zero =>
    constructor
    · exact fun h => nomatch h
    · intro _ _ _ h _
      exact absurd ((one_le_nesting _).trans h.2) (Nat.not_succ_le_zero 0)
  | succ levels ih => exact ⟨unary_succ_sound ih, fun h => unary_succ_complete ih h.1 h.2⟩

theorem disjunction_ok_iff {levels : ℕ} {ts : List Located} {n : Node} :
    disjunction (s.unary levels) ts = .ok (n, []) ↔
      Derives s.reader (tokensOf ts) n ∧ nesting (tokensOf ts) ≤ levels := by
  constructor
  · intro h
    obtain ⟨us, rfl, hus⟩ := (filter_parses (unary_parses levels)).sound h
    rwa [List.append_nil]
  · intro h
    have hread := (filter_parses (unary_parses levels)).complete h closed_nil
    rwa [List.append_nil] at hread

theorem readAll_eq_ok {ts : List Located} {t : Node} :
    s.readAll ts = .ok t ↔ ∃ n, disjunction (s.unary s.limit) ts = .ok (n, []) ∧ t = n.asExpression := by
  unfold Scope.readAll
  cases hread : disjunction (s.unary s.limit) ts with
  | error e => simp [bind, Except.bind]
  | ok p =>
    obtain ⟨n, rest⟩ := p
    cases rest <;> simp [bind, Except.bind, pure, Except.pure, eq_comm]

/-- The grammar derives one tree at most: a reader with levels enough reads all of them. -/
theorem Derives.unique {r : Reader} {ts : List Token} {n n' : Node} (h : Derives r ts n) (h' : Derives r ts n') :
    n = n' := by
  have htokens : tokensOf (ts.map fun t => ⟨t, 0⟩) = ts := by simp [tokensOf, Function.comp_def]
  have hread : ∀ {m}, Derives r ts m →
      disjunction (Scope.unary ⟨r, 0, 0⟩ (nesting ts)) (ts.map fun t => ⟨t, 0⟩) = .ok (m, []) := by
    intro m hm
    rw [disjunction_ok_iff, htokens]
    exact ⟨hm, Nat.le_refl _⟩
  have heq := (hread h).symm.trans (hread h')
  simpa using heq

theorem isExpression_asExpression (n : Node) : n.asExpression.isExpression = true := by
  cases n <;> rfl

/-- **The reader reads what the grammar derives, and nothing else.** Tokens are read exactly if they are
a filter that is not nested more deeply than the limit. They are then a filter in one way only, and what
is read is that tree, made an expression. -/
theorem readAll_ok_iff (s : Scope) (ts : List Located) :
    (∀ t, s.readAll ts = .ok t ↔ nesting (tokensOf ts) ≤ s.limit ∧
      ∃ n, Derives s.reader (tokensOf ts) n ∧ t = n.asExpression) ∧
    (∀ n n', Derives s.reader (tokensOf ts) n → Derives s.reader (tokensOf ts) n' → n = n') ∧
    (∀ t, s.readAll ts = .ok t → t.isExpression = true) := by
  refine ⟨fun t => ?_, fun n n' h h' => h.unique h', fun t h => ?_⟩
  · rw [readAll_eq_ok]
    constructor
    · rintro ⟨n, hread, rfl⟩
      obtain ⟨hn, hlevel⟩ := disjunction_ok_iff.mp hread
      exact ⟨hlevel, n, hn, rfl⟩
    · rintro ⟨hlevel, n, hn, rfl⟩
      exact ⟨n, disjunction_ok_iff.mpr ⟨hn, hlevel⟩, rfl⟩
  · obtain ⟨n, -, rfl⟩ := readAll_eq_ok.mp h
    exact isExpression_asExpression n

/-- A text is read if it has tokens that are a filter, not nested more deeply than the limit. -/
theorem read_ok_iff {r : Reader} {text : String} {t : Node} :
    r.read text = .ok t ↔ ∃ ts n, lex 0 text.toList = .ok ts ∧ nesting (tokensOf ts) ≤ max r.maxDepth 1 ∧
      Derives r (tokensOf ts) n ∧ t = n.asExpression := by
  constructor
  · intro h
    rw [Reader.read] at h
    obtain ⟨ts, hlex, h⟩ := bind_eq_ok.mp h
    cases hlast : ts.getLast? with
    | none => simp [hlast] at h
    | some last =>
      simp only [hlast] at h
      obtain ⟨n, hread, rfl⟩ := readAll_eq_ok.mp h
      obtain ⟨hn, hlevel⟩ := disjunction_ok_iff.mp hread
      exact ⟨ts, n, hlex, hlevel, hn, rfl⟩
  · rintro ⟨ts, n, hlex, hlevel, hn, rfl⟩
    simp only [Reader.read, hlex, bind, Except.bind]
    cases hlast : ts.getLast? with
    | none =>
      obtain rfl : ts = [] := List.getLast?_eq_none_iff.mp hlast
      exact absurd rfl hn.ne_nil
    | some last => exact readAll_eq_ok.mpr ⟨n, disjunction_ok_iff.mpr ⟨hn, hlevel⟩, rfl⟩

end

end LogQuery.Filter
