import LogQuery.Proofs.Filter.Grammar

/-!
# Proofs.Filter.Nesting — how deeply negations and groups are nested

The nesting of a list of tokens is counted from left to right, and needs no tree: a negation and an open
parenthesis lead one level down, a connective back to the level of its group, a closing parenthesis to
that of the group around it.

* `nesting`: the deepest level of a list of tokens; a term that stands alone is on the first.
* `Nested`: the list adds the same to every place where it stands. Chains and operands are nested, and
  `nesting_bang`, `nesting_group` and `chain_bounded_iff` say how deeply.
-/

namespace LogQuery.Filter

/-- The deepest level of tokens at a place: the level there, that of the innermost group, and those of
the groups around it. -/
def nestingFrom : List ℕ → ℕ → ℕ → List Token → ℕ
  | _, _, level, [] => level
  | outer, base, level, .bang :: ts => nestingFrom outer base (level + 1) ts
  | outer, base, level, .leftParen :: ts => nestingFrom (base :: outer) (level + 1) (level + 1) ts
  | outer, _, level, .rightParen :: ts =>
    max level (nestingFrom outer.tail (outer.headD 1) (outer.headD 1) ts)
  | outer, base, level, .connective _ :: ts => max level (nestingFrom outer base base ts)
  | outer, base, level, _ :: ts => nestingFrom outer base level ts

/-- How deeply the tokens are nested. A term takes one level, and each negation and each group around it
takes one more. -/
def nesting (ts : List Token) : ℕ := nestingFrom [] 1 1 ts

example : nesting [.bang, .leftParen, .bang, .text "a", .rightParen, .connective .and, .text "b"] = 4 := rfl

/-! ## Places -/

/-- The token leads to no other level. -/
def Token.isFlat : Token → Bool
  | .bang | .leftParen | .rightParen | .connective _ => false
  | _ => true

/-- The tokens end, or an operand ends before them. -/
def Ended (ts : List Token) : Prop := ∀ t ∈ ts.head?, t = .rightParen ∨ ∃ op, t = .connective op

theorem ended_nil : Ended [] := by
  intro t ht
  simp at ht

theorem ended_rightParen (ts : List Token) : Ended (.rightParen :: ts) := by
  intro t ht
  exact .inl (by simpa using ht.symm)

theorem ended_connective (op : Connective) (ts : List Token) : Ended (.connective op :: ts) := by
  intro t ht
  exact .inr ⟨op, by simpa using ht.symm⟩

section

variable {outer : List ℕ} {base level : ℕ}

theorem nestingFrom_flat {ts : List Token} (h : ∀ t ∈ ts, t.isFlat = true) (rest : List Token) :
    nestingFrom outer base level (ts ++ rest) = nestingFrom outer base level rest := by
  induction ts with
  | nil => rfl
  | cons t ts ih =>
    have hrest := ih fun u hu => h u (List.mem_cons_of_mem t hu)
    have ht := h t List.mem_cons_self
    cases t with
    | bang | leftParen | rightParen | connective => exact absurd ht Bool.false_ne_true
    | _ => exact hrest

theorem le_nestingFrom (ts : List Token) : level ≤ nestingFrom outer base level ts := by
  induction ts generalizing outer base level with
  | nil => exact Nat.le_refl level
  | cons t ts ih =>
    cases t with
    | bang => exact (Nat.le_succ level).trans ih
    | leftParen => exact (Nat.le_succ level).trans ih
    | rightParen => exact le_max_left _ _
    | connective => exact le_max_left _ _
    | _ => exact ih

/-- Where an operand ends, the level goes back to that of the group. -/
theorem nestingFrom_ended {rest : List Token} (h : Ended rest) (hlevel : base ≤ level) :
    nestingFrom outer base level rest = max level (nestingFrom outer base base rest) := by
  cases rest with
  | nil => exact (max_eq_left hlevel).symm
  | cons t rest =>
    rcases h t rfl with rfl | ⟨op, rfl⟩
    · simp only [nestingFrom, ← max_assoc, max_eq_left hlevel]
    · simp only [nestingFrom, ← max_assoc, max_eq_left hlevel]

end

theorem one_le_nesting (ts : List Token) : 1 ≤ nesting ts := le_nestingFrom ts

/-! ## Lists that are nested the same everywhere -/

/-- The tokens add their own nesting to the level of any group in which they stand. -/
def Nested (ts : List Token) : Prop :=
  ∀ outer base rest, Ended rest → nestingFrom outer base base (ts ++ rest) + 1 =
    max (base + nesting ts) (nestingFrom outer base base rest + 1)

/-- The tokens add their own nesting to the level of any place in a group. -/
def NestedBelow (ts : List Token) : Prop :=
  ∀ outer base level rest, base ≤ level → Ended rest → nestingFrom outer base level (ts ++ rest) + 1 =
    max (level + nesting ts) (nestingFrom outer base base rest + 1)

theorem NestedBelow.nested {ts : List Token} (h : NestedBelow ts) : Nested ts :=
  fun outer base rest hrest => h outer base base rest (Nat.le_refl base) hrest

theorem nested_nil : Nested [] := by
  intro outer base rest _
  have hle : base ≤ nestingFrom outer base base rest := le_nestingFrom rest
  have hone : nesting [] = 1 := rfl
  rw [List.nil_append]
  omega

theorem nesting_flat {ts : List Token} (h : ∀ t ∈ ts, t.isFlat = true) : nesting ts = 1 := by
  have hflat : nestingFrom [] 1 1 (ts ++ []) = 1 := nestingFrom_flat h []
  rwa [List.append_nil] at hflat

theorem nestedBelow_flat {ts : List Token} (h : ∀ t ∈ ts, t.isFlat = true) : NestedBelow ts := by
  intro outer base level rest hlevel hrest
  have hone := nesting_flat h
  rw [nestingFrom_flat h, nestingFrom_ended hrest hlevel]
  omega

section

variable {ts us : List Token}

theorem nesting_append (hts : Nested ts) (hus : Ended us) :
    nesting (ts ++ us) = max (nesting ts) (nesting us) := by
  have happend := hts [] 1 us hus
  have hts' : nesting (ts ++ us) = nestingFrom [] 1 1 (ts ++ us) := rfl
  have hus' : nesting us = nestingFrom [] 1 1 us := rfl
  omega

theorem Nested.append (hts : Nested ts) (hus : Nested us) (hends : Ended us) : Nested (ts ++ us) := by
  intro outer base rest hrest
  have hmore : Ended (us ++ rest) := by
    cases us with
    | nil => exact hrest
    | cons u us => exact hends
  rw [List.append_assoc, hts outer base (us ++ rest) hmore, hus outer base rest hrest,
    nesting_append hts hends]
  omega

theorem nesting_bang (h : NestedBelow ts) : nesting (.bang :: ts) = nesting ts + 1 := by
  have hbelow := h [] 1 2 [] (by omega) ended_nil
  rw [List.append_nil] at hbelow
  have hbang : nesting (.bang :: ts) = nestingFrom [] 1 2 ts := rfl
  have hone := one_le_nesting ts
  have hnil : nestingFrom [] 1 1 [] = 1 := rfl
  omega

theorem NestedBelow.bang (h : NestedBelow ts) : NestedBelow (.bang :: ts) := by
  intro outer base level rest hlevel hrest
  have hbelow := h outer base (level + 1) rest (by omega) hrest
  have hone := nesting_bang h
  show nestingFrom outer base (level + 1) (ts ++ rest) + 1 = _
  omega

theorem nesting_group (h : Nested ts) : nesting (.leftParen :: ts ++ [.rightParen]) = nesting ts + 1 := by
  have hgroup := h [1] 2 [.rightParen] (ended_rightParen [])
  have hopen : nesting (.leftParen :: ts ++ [.rightParen]) = nestingFrom [1] 2 2 (ts ++ [.rightParen]) := rfl
  have hclose : nestingFrom [1] 2 2 [.rightParen] = 2 := rfl
  have hone := one_le_nesting ts
  omega

theorem Nested.group (h : Nested ts) : NestedBelow (.leftParen :: ts ++ [.rightParen]) := by
  intro outer base level rest hlevel _
  have hgroup := h (base :: outer) (level + 1) (.rightParen :: rest) (ended_rightParen rest)
  have hone := nesting_group h
  have hpos := one_le_nesting ts
  have hclose : nestingFrom (base :: outer) (level + 1) (level + 1) (.rightParen :: rest) =
      max (level + 1) (nestingFrom outer base base rest) := rfl
  have hopen : nestingFrom outer base level (.leftParen :: ts ++ [.rightParen] ++ rest) =
      nestingFrom (base :: outer) (level + 1) (level + 1) (ts ++ .rightParen :: rest) := by
    rw [List.append_assoc]
    rfl
  omega

theorem nesting_connective (op : Connective) (ts : List Token) :
    nesting (.connective op :: ts) = nesting ts := max_eq_right (one_le_nesting ts)

theorem Nested.connective (h : Nested ts) (op : Connective) : Nested (.connective op :: ts) := by
  intro outer base rest hrest
  have hts := h outer base rest hrest
  have hle : base ≤ nestingFrom outer base base (ts ++ rest) := le_nestingFrom _
  have hconnective := nesting_connective op ts
  show max base (nestingFrom outer base base (ts ++ rest)) + 1 = _
  omega

end

/-! ## Chains -/

section

variable {op : Connective} {Item : List Token → Node → Prop} (hitem : ∀ us m, Item us m → Nested us)

theorem Further.ended {ts : List Token} {nodes : List Node} (h : Further op Item ts nodes) : Ended ts := by
  cases h with
  | nil => exact ended_nil
  | cons => exact ended_connective op _

include hitem

theorem Further.nested {ts : List Token} {nodes : List Node} (h : Further op Item ts nodes) : Nested ts := by
  induction h with
  | nil => exact nested_nil
  | cons h h' ih => exact ((hitem _ _ h).connective op).append ih h'.ended

theorem Chain.nested {ts : List Token} {n : Node} (h : Chain op Item ts n) : Nested ts := by
  cases h with
  | of h h' => exact (hitem _ _ h).append (h'.nested hitem) h'.ended

theorem further_bounded_iff {k : ℕ} (hk : 1 ≤ k) {ts : List Token} {nodes : List Node} :
    Further op (fun us m => Item us m ∧ nesting us ≤ k) ts nodes ↔ Further op Item ts nodes ∧ nesting ts ≤ k := by
  constructor
  · intro h
    induction h with
    | nil => exact ⟨.nil, hk⟩
    | cons h h' ih =>
      refine ⟨.cons h.1 ih.1, ?_⟩
      rw [nesting_append ((hitem _ _ h.1).connective op) h'.ended, nesting_connective]
      exact max_le h.2 ih.2
  · rintro ⟨h, hle⟩
    induction h with
    | nil => exact .nil
    | cons h h' ih =>
      rw [nesting_append ((hitem _ _ h).connective op) h'.ended, nesting_connective] at hle
      exact .cons ⟨h, (le_max_left _ _).trans hle⟩ (ih ((le_max_right _ _).trans hle))

/-- A chain is nested at most as deeply as its items are. -/
theorem chain_bounded_iff {k : ℕ} {ts : List Token} {n : Node} :
    Chain op (fun us m => Item us m ∧ nesting us ≤ k) ts n ↔ Chain op Item ts n ∧ nesting ts ≤ k := by
  constructor
  · intro h
    cases h with
    | of h h' =>
      obtain ⟨hmore, hle⟩ := (further_bounded_iff hitem ((one_le_nesting _).trans h.2)).mp h'
      rw [nesting_append (hitem _ _ h.1) hmore.ended]
      exact ⟨.of h.1 hmore, max_le h.2 hle⟩
  · rintro ⟨h, hle⟩
    cases h with
    | of h h' =>
      rw [nesting_append (hitem _ _ h) h'.ended] at hle
      have hfirst := (le_max_left _ _).trans hle
      have hmore := (further_bounded_iff hitem ((one_le_nesting _).trans hfirst)).mpr
        ⟨h', (le_max_right _ _).trans hle⟩
      exact .of ⟨h, hfirst⟩ hmore

end

/-! ## Operands and filters -/

section

variable {r : Reader} {ts : List Token} {n : Node}

theorem Members.isFlat {members : List String} (h : Members ts members) : ∀ t ∈ ts, t.isFlat = true := by
  have hmember : ∀ {t : Token} {member : String}, t.member? = some member → t.isFlat = true := by
    intro t member h
    cases t <;> first | rfl | exact nomatch h
  induction h with
  | last h =>
    intro t ht
    rw [List.mem_singleton.mp ht]
    exact hmember h
  | more h _ ih =>
    intro t ht
    rcases List.mem_cons.mp ht with rfl | ht
    · exact hmember h
    · rcases List.mem_cons.mp ht with rfl | ht
      exacts [rfl, ih t ht]

theorem Side.Derives.isFlat {o : Operand} (h : Side.Derives r ts o) : ∀ t ∈ ts, t.isFlat = true := by
  cases h with
  | set h =>
    intro t ht
    rcases List.mem_cons.mp ht with rfl | ht
    · rfl
    · rcases List.mem_append.mp ht with ht | ht
      · exact h.isFlat t ht
      · rw [List.mem_singleton.mp ht]
        rfl
  | emptySet => simp [Token.isFlat]
  | _ => simp [Token.isFlat]

theorem Leaf.isFlat (h : Leaf r ts n) : ∀ t ∈ ts, t.isFlat = true := by
  cases h with
  | comparison h =>
    cases h with
    | of ha hb =>
      intro t ht
      rcases List.mem_append.mp ht with ht | ht
      · exact ha.isFlat t ht
      · rcases List.mem_cons.mp ht with rfl | ht
        exacts [rfl, hb.isFlat t ht]
  | _ => simp [Token.isFlat]

theorem Leaf.nesting_eq (h : Leaf r ts n) : nesting ts = 1 := nesting_flat h.isFlat

theorem Unary.nestedBelow (h : Unary r ts n) : NestedBelow ts := by
  refine Unary.induct (motive := fun ts _ => NestedBelow ts) ?_ ?_ ?_ h
  · exact fun ts n _ ih => ih.bang
  · intro ts n hchain
    have hnested := hchain.nested fun us m hand => hand.nested fun vs k hunary => hunary.2.nested
    exact hnested.group
  · exact fun ts n hleaf => nestedBelow_flat hleaf.isFlat

theorem Unary.nested (h : Unary r ts n) : Nested ts := h.nestedBelow.nested

theorem Derives.nested (h : Derives r ts n) : Nested ts :=
  Chain.nested (fun _ _ hand => hand.nested fun _ _ hunary => hunary.nested) h

/-- A filter is nested at most as deeply as its operands are. -/
theorem filter_bounded_iff {Item : List Token → Node → Prop} (hitem : ∀ us m, Item us m → Nested us) {k : ℕ} :
    Chain .or (Chain .and fun us m => Item us m ∧ nesting us ≤ k) ts n ↔
      Chain .or (Chain .and Item) ts n ∧ nesting ts ≤ k := by
  have hand : ∀ us m, Chain .and (fun us m => Item us m ∧ nesting us ≤ k) us m ↔
      Chain .and Item us m ∧ nesting us ≤ k := fun us m => chain_bounded_iff hitem
  have hor : Chain .or (fun us m => Chain .and Item us m ∧ nesting us ≤ k) ts n ↔
      Chain .or (Chain .and Item) ts n ∧ nesting ts ≤ k :=
    chain_bounded_iff fun _ _ hchain => hchain.nested hitem
  rw [← hor]
  exact ⟨Chain.mono fun us m => (hand us m).mp, Chain.mono fun us m => (hand us m).mpr⟩

theorem derives_bounded_iff {k : ℕ} :
    Chain .or (Chain .and fun us m => Unary r us m ∧ nesting us ≤ k) ts n ↔ Derives r ts n ∧ nesting ts ≤ k :=
  filter_bounded_iff fun _ _ hunary => hunary.nested

end

end LogQuery.Filter
