import LogQuery.Proofs.Filter.Tokens

/-!
# Proofs.Filter.Reading — how the reader goes through tokens

What each reading function does with the tokens in front of it, and what may stand behind them. One
token ahead decides: whether a name or a text is a side of a comparison, and whether a chain goes on.

* `leaf_eq_comparison`, `comparison_ok`: a side in front of an operator, and what has to follow it.
* `Closed`, `Follows`, `Bounded`: what may follow a whole filter, a chain, and a part of a chain.
* `chainRest_stop`, `unary_of_leaf`, `group_reads`: chains, leaves and groups as operands.
-/

namespace LogQuery.Filter

/-- Items joined by a connective; a single item stays as it is. -/
def joined (op : Connective) (first : Node) : List Node → Node
  | [] => first
  | node :: nodes => .expression op false first (node :: nodes)

/-! ## Sides and leaves -/

/-- The tokens of located tokens. -/
abbrev tokensOf (located : List Located) : List Token := located.map Located.token

theorem tokensOf_cons (t : Located) (ts : List Located) : tokensOf (t :: ts) = t.token :: tokensOf ts := rfl

theorem tokensOf_append (ts us : List Located) : tokensOf (ts ++ us) = tokensOf ts ++ tokensOf us :=
  List.map_append

/-- Located tokens that begin with a token. -/
theorem exists_of_tokensOf_cons {located : List Located} {token : Token} {tokens : List Token}
    (h : tokensOf located = token :: tokens) : ∃ position located',
      located = ⟨token, position⟩ :: located' ∧ tokensOf located' = tokens := by
  obtain ⟨t, located', rfl, rfl, rfl⟩ := List.map_eq_cons_iff.mp h
  exact ⟨t.position, located', rfl, rfl⟩

theorem eq_nil_of_tokensOf {located : List Located} (h : tokensOf located = []) : located = [] :=
  List.map_eq_nil_iff.mp h

/-- A side in front of an operator belongs to a comparison. -/
theorem leaf_eq_comparison {r : Reader} {t : Located} {ts rest : List Located} {o : Operand}
    (h : r.operand t ts = .ok (o, rest)) (hop : atComparator rest = true) :
    r.leaf (t :: ts) = r.comparison t ts := by
  obtain ⟨token, position⟩ := t
  cases token with
  | word name =>
    obtain ⟨o', -, heq⟩ := map_eq_ok.mp h
    obtain rfl : ts = rest := (Prod.mk.inj heq).2
    simp only [Reader.leaf, hop]
  | text s =>
    obtain rfl : ts = rest := (Prod.mk.inj (Except.ok.inj h)).2
    simp only [Reader.leaf, hop]
  | «alias» name => simp [Reader.operand] at h
  | _ => rfl

theorem comparator_ok {ts rest : List Located} {op : Comparator} {position : ℕ}
    (h : comparator ts = .ok ((op, position), rest)) : ts = ⟨.comparator op, position⟩ :: rest := by
  unfold comparator at h
  split at h
  · obtain ⟨heq, rfl⟩ := Prod.mk.inj (Except.ok.inj h)
    obtain ⟨rfl, rfl⟩ := Prod.mk.inj heq
    rfl
  · exact nomatch h
  · exact nomatch h

/-- What the reading of a comparison went through: both sides, and an operator between them. -/
theorem comparison_ok {r : Reader} {t : Located} {ts rest : List Located} {n : Node}
    (h : r.comparison t ts = .ok (n, rest)) :
    ∃ left op position u us right, r.operand t ts = .ok (left, ⟨.comparator op, position⟩ :: u :: us) ∧
      r.operand u us = .ok (right, rest) ∧ comparisonOf left op right position = .ok n := by
  rw [Reader.comparison] at h
  obtain ⟨⟨left, ts₁⟩, hl, hmore⟩ := bind_eq_ok.mp h
  obtain ⟨⟨⟨op, position⟩, ts₂⟩, hop, hside⟩ := bind_eq_ok.mp hmore
  rw [comparator_ok hop] at hl
  cases ts₂ with
  | nil => exact nomatch hside
  | cons u us =>
    obtain ⟨⟨right, ts₃⟩, hr, hchecks⟩ := bind_eq_ok.mp hside
    obtain ⟨n', hc, hdone⟩ := bind_eq_ok.mp hchecks
    obtain ⟨rfl, rfl⟩ := Prod.mk.inj (Except.ok.inj hdone)
    exact ⟨left, op, position, u, us, right, hl, hr, hc⟩

/-! ## What may follow -/

/-- The tokens end, or a group ends. -/
def Closed (ts : List Located) : Prop := ∀ t ∈ ts.head?, t.token = .rightParen

/-- The chain of a connective goes on, or it is closed. -/
def Follows (op : Connective) (ts : List Located) : Prop :=
  ∀ t ∈ ts.head?, t.token = .rightParen ∨ t.token = .connective op

/-- A part of a filter ends. -/
def Bounded (ts : List Located) : Prop := ∃ op, Follows op ts

theorem Closed.follows {ts : List Located} (h : Closed ts) (op : Connective) : Follows op ts :=
  fun t ht => .inl (h t ht)

theorem Follows.bounded {op : Connective} {ts : List Located} (h : Follows op ts) : Bounded ts := ⟨op, h⟩

theorem closed_nil : Closed [] := by
  intro t ht
  simp at ht

theorem closed_rightParen (position : ℕ) (ts : List Located) : Closed (⟨.rightParen, position⟩ :: ts) := by
  intro t ht
  obtain rfl : _ = t := by simpa using ht
  rfl

theorem follows_connective (op : Connective) (position : ℕ) (ts : List Located) :
    Follows op (⟨.connective op, position⟩ :: ts) := by
  intro t ht
  obtain rfl : _ = t := by simpa using ht
  exact .inr rfl

theorem Bounded.atComparator {ts : List Located} (h : Bounded ts) : atComparator ts = false := by
  obtain ⟨op, h⟩ := h
  cases ts with
  | nil => rfl
  | cons t ts =>
    obtain ⟨token, position⟩ := t
    rcases h _ rfl with h | h <;> obtain rfl : token = _ := h <;> rfl

/-! ## Chains -/

section

variable {op : Connective} {item : Reading Node}

theorem chainRest_stop {rest : List Located} (h : ∀ t ∈ rest.head?, t.token ≠ .connective op)
    (fuel : ℕ) : chainRest op item fuel rest = .ok ([], rest) := by
  cases fuel with
  | zero => rfl
  | succ fuel =>
    cases rest with
    | nil => rfl
    | cons t rest =>
      obtain ⟨token, position⟩ := t
      have hne : token ≠ .connective op := h _ rfl
      cases token with
      | connective op' =>
        have hop : op' ≠ op := fun e => hne (by rw [e])
        rw [chainRest, if_neg hop]
      | _ => rfl

theorem Closed.ne_connective {rest : List Located} (h : Closed rest) :
    ∀ t ∈ rest.head?, t.token ≠ .connective op := by
  intro t ht e
  rw [h t ht] at e
  exact Token.noConfusion e

end

/-! ## Negations and groups -/

section

variable {s : Scope}

theorem unary_of_leaf {ts rest : List Located} {n : Node} (h : s.reader.leaf ts = .ok (n, rest))
    (levels : ℕ) : s.unary (levels + 1) ts = .ok (n, rest) := by
  cases ts with
  | nil => exact h
  | cons t ts =>
    obtain ⟨token, position⟩ := t
    cases token with
    | bang => simp [Reader.leaf, Reader.comparison, Reader.operand, bind, Except.bind] at h
    | leftParen => simp [Reader.leaf, Reader.comparison, Reader.operand, bind, Except.bind] at h
    | _ => exact h

theorem unary_bang (levels position : ℕ) (ts : List Located) :
    s.unary (levels + 1) (⟨.bang, position⟩ :: ts) =
      (s.unary levels ts).map fun (n, ts) => (n.not, ts) := rfl

theorem closeGroup_ok_iff {n n' : Node} {ts rest : List Located} :
    closeGroup n ts = .ok (n', rest) ↔ n' = n ∧ ∃ position, ts = ⟨.rightParen, position⟩ :: rest := by
  constructor
  · intro h
    cases ts with
    | nil => simp [closeGroup] at h
    | cons t ts =>
      obtain ⟨token, position⟩ := t
      cases token with
      | rightParen =>
        simp only [closeGroup, Except.ok.injEq, Prod.mk.injEq] at h
        exact ⟨h.1.symm, position, by rw [h.2]⟩
      | _ => simp [closeGroup] at h
  · rintro ⟨rfl, position, rfl⟩
    rfl

/-- A group is read as what stands in it. -/
theorem group_reads {levels : ℕ} {body : List Token} {n : Node}
    (hbody : ∀ located rest, tokensOf located = body → Closed rest →
      disjunction (s.unary levels) (located ++ rest) = .ok (n, rest))
    {located : List Located} (htokens : tokensOf located = .leftParen :: body ++ [.rightParen])
    (rest : List Located) : s.unary (levels + 1) (located ++ rest) = .ok (n, rest) := by
  rw [List.cons_append] at htokens
  obtain ⟨⟨_, position⟩, located', rfl, hopen, hmore⟩ := List.map_eq_cons_iff.mp htokens
  obtain rfl : _ = Token.leftParen := hopen
  obtain ⟨ls, rs, rfl, hls, hrs⟩ := List.map_eq_append_iff.mp hmore
  obtain ⟨⟨_, position'⟩, rs, rfl, hclose, hnil⟩ := List.map_eq_cons_iff.mp hrs
  obtain rfl : _ = Token.rightParen := hclose
  obtain rfl : rs = [] := List.map_eq_nil_iff.mp hnil
  have hread := hbody ls (⟨.rightParen, position'⟩ :: rest) hls (closed_rightParen position' rest)
  simp only [List.cons_append, List.append_assoc, List.nil_append, Scope.unary, hread, bind, Except.bind,
    closeGroup]

end

end LogQuery.Filter
