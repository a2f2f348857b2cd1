import LogQuery.Proofs.Filter.Grammar

/-!
# Proofs.Filter.Typing — a typed comparison is typed the same way again

A constant is typed by the field beside it when a comparison is read. Written out and read again, it
is a text, a pattern or a number as before, and the same field gives it the same type.

* `Comparison.Writable`: what a comparison needs to be written, beyond being read.
* `Typed.named`, `Typed.untyped`: a typed constant can be named, and what it is written as is typed again.
* `TypedSides.restates`: a comparison that was read is read again from its text.
-/

namespace LogQuery.Filter

/-! ## What can be written -/

/-- A date stands in one of the years that are written with four digits. -/
def Operand.ShortYear : Operand → Prop
  | .literal (.date d) => 0 ≤ d.date.year ∧ d.date.year ≤ 9999
  | _ => True

/-- Whether the side is a saved filter. -/
def Operand.isRule : Operand → Bool
  | .rule _ => true
  | _ => false

/-- Whether a saved filter is matched with a pattern. The pattern is written as a text, which a saved
filter does not turn into a pattern again. -/
def Comparison.matchesRule (c : Comparison) : Bool :=
  c.op == .matches && (c.left.isRule && c.right.isPattern || c.left.isPattern && c.right.isRule)

/-- The comparison can be written and read again. -/
structure Comparison.Writable (c : Comparison) : Prop where
  left : c.left.ShortYear
  right : c.right.ShortYear
  matchesRule : c.matchesRule = false

/-- A filter without connectives can be written and read again. -/
def Node.Writable : Node → Prop
  | .comparison c => c.Writable
  | _ => True

/-- The side is one that the reader reads, before constants are typed. -/
structure Reader.Reads (r : Reader) (o : Operand) : Prop where
  named : r.Says .equal o
  untyped : ∀ d, o ≠ .literal (.date d)

theorem Reader.Reads.named_op {r : Reader} {o : Operand} (h : r.Reads o) (op : Comparator) : r.Says op o := by
  have hnamed := h.named
  match o, hnamed with
  | .literal (.pattern p), hnamed =>
    obtain ⟨hvalid, hpaired⟩ := hnamed
    exact ⟨hvalid, .inr (hpaired.resolve_left (by decide))⟩
  | .field f, hnamed => exact hnamed
  | .rule name, hnamed => exact hnamed
  | .literal (.number .nan), hnamed => exact hnamed
  | .literal (.number (.infinite _)), _ => exact trivial
  | .literal (.number (.finite _ _)), _ => exact trivial
  | .literal (.text _), _ => exact trivial
  | .literal (.date _), _ => exact trivial
  | .literal (.boolean _), _ => exact trivial
  | .literal (.set _), _ => exact trivial

/-! ## Constants -/

section

variable {r : Reader} {f : FieldRef} {op op' : Comparator} {l l' : Literal}

/-- A constant that is typed by a field beside `op` can be named. -/
theorem Typed.named (h : Typed f op' l l') (hop : op' = .matches ↔ op = .matches)
    (hl : r.Reads (.literal l)) : r.Says op (.literal l') := by
  cases h with
  | pattern hmatches hp => exact ⟨(ofSource?_eq_some_iff.mp hp).2, .inl (hop.mp hmatches)⟩
  | date => exact trivial
  | plain => exact hl.named_op op

/-- What a typed constant is written as is typed the same way. -/
theorem Typed.untyped (h : Typed f op' l l') (hop : op' = .matches ↔ op = .matches)
    (hl : r.Reads (.literal l)) (hyear : (Operand.literal l').ShortYear) :
    Typed f op' (l'.untyped op) l'.plainZero := by
  cases h with
  | pattern hmatches hp =>
    obtain ⟨rfl, -⟩ := ofSource?_eq_some_iff.mp hp
    rw [Literal.untyped, if_pos (hop.mp hmatches)]
    exact .pattern hmatches hp
  | date hmatches hdate _ => exact .date hmatches hdate (Instant.ofText?_canonical hyear)
  | plain hplain =>
    cases l with
    | text s => exact .plain hplain
    | pattern p =>
      rw [Literal.untyped]
      split_ifs with hm
      · exact .pattern (hop.mpr hm) (ofSource?_eq_some_iff.mpr ⟨rfl, (hl.named_op op).1⟩)
      · exact .plain hplain
    | date d => exact absurd rfl (hl.untyped d)
    | _ => exact .plain fun s hs => Literal.noConfusion hs

end

/-- Beside a side that is no field a constant stays as it is read. -/
theorem untyped_eq_plainZero {r : Reader} {op : Comparator} {o : Operand} (ho : r.Reads o)
    (hm : op = .matches → o.isPattern = false) : o.untyped op = o.plainZero := by
  match o, ho, hm with
  | .field f, _, _ => rfl
  | .rule name, _, _ => rfl
  | .literal (.text s), _, _ => rfl
  | .literal (.pattern p), _, hm =>
    have hop : op ≠ .matches := fun h => Bool.noConfusion (hm h)
    rw [Operand.untyped, Literal.untyped, if_neg hop]
    rfl
  | .literal (.date d), ho, _ => exact absurd rfl (ho.untyped d)
  | .literal (.number n), _, _ => rfl
  | .literal (.boolean b), _, _ => rfl
  | .literal (.set values), _, _ => rfl

/-! ## Comparisons -/

theorem isPattern_plainZero (o : Operand) : o.plainZero.isPattern = o.isPattern := by
  rcases o with f | l | name
  · rfl
  · cases l <;> rfl
  · rfl

theorem subject?_plainZero (o : Operand) : o.plainZero.subject? = o.subject? := by
  cases o <;> rfl

/-- The checks do not look at the sign of zeros. -/
theorem Allowed.plainZero {left right : Operand} {op : Comparator} (h : Allowed left op right) :
    Allowed left.plainZero op right.plainZero := by
  refine ⟨?_, ?_⟩
  · rw [isPattern_plainZero, isPattern_plainZero]
    exact h.pattern
  · rw [subjectOf, subject?_plainZero, subject?_plainZero]
    exact h.ordering

theorem mirrored_eq_matches (op : Comparator) : op.mirrored = .matches ↔ op = .matches := by
  cases op <;> simp [Comparator.mirrored]

section

variable {r : Reader} {op : Comparator} {a b left right : Operand}

/-- Sides that are typed can be named. -/
theorem TypedSides.named (h : TypedSides op a b left right) (ha : r.Reads a) (hb : r.Reads b) :
    r.Says op left ∧ r.Says op right := by
  cases h with
  | right h => exact ⟨ha.named_op op, h.named Iff.rfl hb⟩
  | left h => exact ⟨h.named (mirrored_eq_matches op) ha, hb.named_op op⟩
  | _ => exact ⟨ha.named_op op, hb.named_op op⟩

/-- What typed sides are written as is typed the same way. -/
theorem TypedSides.untyped (h : TypedSides op a b left right) (ha : r.Reads a) (hb : r.Reads b)
    (hw : (⟨left, op, right⟩ : Comparison).Writable) :
    TypedSides op (left.untyped op) (right.untyped op) left.plainZero right.plainZero := by
  have hrule : op = .matches →
      (left.isRule = true → right.isPattern = false) ∧ (left.isPattern = true → right.isRule = false) := by
    intro hm
    simpa [Comparison.matchesRule, hm] using hw.matchesRule
  cases h with
  | right h => exact .right (h.untyped Iff.rfl hb hw.right)
  | left h => exact .left (h.untyped (mirrored_eq_matches op) ha hw.left)
  | fields f g => exact .fields f g
  | ruleLeft name =>
    rw [untyped_eq_plainZero hb fun hm => (hrule hm).1 rfl]
    exact .ruleLeft name _
  | ruleRight _ name =>
    have hside : op = .matches → a.isPattern = false := fun hm =>
      Bool.eq_false_iff.mpr fun hp => Bool.noConfusion ((hrule hm).2 hp)
    rw [untyped_eq_plainZero ha hside]
    exact .ruleRight _ name

/-- **A comparison that was read is read again from its text**, if it can be written. -/
theorem TypedSides.restates (h : TypedSides op a b left right) (hallowed : Allowed left op right)
    (ha : r.Reads a) (hb : r.Reads b) (hw : (⟨left, op, right⟩ : Comparison).Writable) :
    r.Restates (.comparison ⟨left, op, right⟩) := by
  obtain ⟨hleft, hright⟩ := h.named ha hb
  refine ⟨hleft, hright, fun position => ?_⟩
  exact comparisonOf_ok_iff.mpr ⟨_, _, h.untyped ha hb hw, hallowed.plainZero, rfl⟩

end

end LogQuery.Filter
