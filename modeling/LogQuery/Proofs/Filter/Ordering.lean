import LogQuery.Proofs.Filter.Single
import LogQuery.Proofs.Filter.WellFormed

/-!
# Proofs.Filter.Ordering — the sides of a comparison by order

A comparison by order asks for sides that have an order: numbers, dates, and values of an unknown type. The
reader asks this of one side, the subject of the comparison. That is the left side, unless a constant stands
there. So a constant never stands beside a side without order, and the left side always has one; but the
right side of two fields may be a text, a truth value or the verdict of a saved filter.

* `Operand.isOrdered`: a side that may be compared by order.
* `isOrdered_of_allowed`: what the check of the subject says of both sides.
* `ordering_checks_subject`: nothing else is asked for, so that each such comparison is read.
-/

namespace LogQuery.Filter

/-- Whether the side may be compared by order: a field of an ordered type, or a constant beside one. -/
def Operand.isOrdered : Operand → Bool
  | .field f => f.type.isOrdered
  | .literal _ => true
  | .rule _ => false

theorem isOrdered_iff_subject (o : Operand) :
    o.isOrdered = true ↔ ∀ subject ∈ o.subject?, subject.2.isOrdered = true := by
  cases o <;> simp [Operand.isOrdered, Operand.subject?, FieldType.isOrdered]

section

variable {left right : Operand} {op : Comparator}

/-- Beside a constant the right side is the subject; beside a field nothing is asked of it. -/
theorem isOrdered_of_allowed (h : Allowed left op right) (hop : op.isOrdering = true) :
    left.isOrdered = true ∧ ((∃ l, left = .literal l) → right.isOrdered = true) := by
  have hsubject := h.ordering hop
  cases left with
  | field f => exact ⟨(isOrdered_iff_subject _).mpr hsubject, fun ⟨l, hl⟩ => Operand.noConfusion hl⟩
  | literal l => exact ⟨rfl, fun _ => (isOrdered_iff_subject right).mpr hsubject⟩
  | rule name => exact ⟨(isOrdered_iff_subject _).mpr hsubject, fun ⟨l, hl⟩ => Operand.noConfusion hl⟩

theorem Leaf.allowed {r : Reader} {ts : List Token} {c : Comparison} (h : Leaf r ts (.comparison c)) :
    Allowed c.left c.op c.right := by
  cases h with
  | boolean => exact ⟨by simp [Operand.isPattern], by simp [Comparator.isOrdering]⟩
  | comparison h =>
    cases h with
    | of _ _ _ hallowed => exact hallowed

/-- A field of an ordered type may be compared by order with every field and every saved filter. -/
theorem allowed_of_field {f : FieldRef} {o : Operand} (hliteral : ∀ l, o ≠ .literal l)
    (hordered : f.type.isOrdered = true) (op : Comparator) : Allowed (.field f) op o := by
  refine ⟨fun hpattern => ?_, fun _ subject hsubject => ?_⟩
  · cases o with
    | literal l => exact absurd rfl (hliteral l)
    | _ => exact absurd hpattern (by simp [Operand.isPattern])
  · obtain rfl : (f.name, f.type) = subject := Option.some.inj hsubject
    exact hordered

end

/-- In a comparison by order that is read, the left side has an order, and beside a constant the right side. -/
theorem isOrdered_of_read {r : Reader} {text : String} {t : Node} (h : r.read text = .ok t) {c : Comparison}
    (hc : .comparison c ∈ t.parts) (hop : c.op.isOrdering = true) :
    c.left.isOrdered = true ∧ ((∃ l, c.left = .literal l) → c.right.isOrdered = true) := by
  obtain ⟨n, rfl, hshaped, -⟩ := read_shaped h
  have hleaf := mem_leaves_of_mem_parts _ hc
  rw [leaves_asExpression] at hleaf
  obtain ⟨ts, -, hleaf⟩ := hshaped.leaves _ hleaf
  exact isOrdered_of_allowed hleaf.allowed hop

/-- **Only the subject of a comparison by order has to have an order.** In every comparison by order that is
read, the left side is a field of an ordered type or a constant, and beside a constant the right side is a
field of an ordered type. Beside a field nothing is asked of the right side: whatever field or saved filter
stands there, of an ordered type or not, the comparison is read if and only if the type of the left field is
ordered, with every limit on levels. -/
theorem ordering_checks_subject (r : Reader) :
    (∀ text t c, r.read text = .ok t → .comparison c ∈ t.parts → c.op.isOrdering = true →
      c.left.isOrdered = true ∧ ((∃ l, c.left = .literal l) → c.right.isOrdered = true)) ∧
    ∀ f op o, r.Says op (.field f) → r.Says op o → (∀ l, o ≠ .literal l) → op.isOrdering = true →
      (r.read (single ⟨.field f, op, o⟩).canonical = .ok (single ⟨.field f, op, o⟩) ↔
        f.type.isOrdered = true) := by
  refine ⟨fun text t c h hc hop => isOrdered_of_read h hc hop, fun f op o hf ho hliteral hop => ?_⟩
  have hpart : .comparison ⟨.field f, op, o⟩ ∈ (single ⟨.field f, op, o⟩).parts := by
    simp [single, Node.parts]
  refine ⟨fun h => (isOrdered_of_read h hpart hop).1, fun hordered => ?_⟩
  refine (read_single_iff ⟨hf, ho⟩).mpr ⟨.field f, o, ?_, allowed_of_field hliteral hordered op, rfl⟩
  cases o with
  | field g => exact .fields f g
  | literal l => exact absurd rfl (hliteral l)
  | rule name => exact .ruleRight _ name

/-- A catalog with a number and a text. -/
def statusCatalog : Catalog := fun name =>
  if name = "status" then some .number else if name = "message" then some .text else none

/-- One saved filter, which searches for a word. -/
def slowRegistry : Registry := ⟨[("slow", .named "slow" (.search "timeout"))]⟩

/-- A number beside a text, and a number beside the verdict of a saved filter. -/
def statusBelowMessage : Comparison := ⟨.field ⟨"status", .number⟩, .less, .field ⟨"message", .text⟩⟩

@[inherit_doc statusBelowMessage] def statusBelowSlow : Comparison :=
  ⟨.field ⟨"status", .number⟩, .less, .rule "slow"⟩

/-- A constant beside the number. -/
def zeroBelowStatus : Comparison := ⟨.literal (.number .zero), .less, .field ⟨"status", .number⟩⟩

/-- Beside a constant the number has an order, and beside the number a text and a saved filter are read. -/
theorem ordering_checks_subject_status :
    let r := Reader.mk statusCatalog (some slowRegistry) 64
    r.read "0 < status" = .ok (single zeroBelowStatus) ∧ zeroBelowStatus.right.isOrdered = true ∧
      r.read (single statusBelowMessage).canonical = .ok (single statusBelowMessage) ∧
      r.read (single statusBelowSlow).canonical = .ok (single statusBelowSlow) := by
  intro r
  obtain ⟨hsubject, hexact⟩ := ordering_checks_subject r
  have hread : r.read "0 < status" = .ok (single zeroBelowStatus) := by cbv
  have hpart : .comparison zeroBelowStatus ∈ (single zeroBelowStatus).parts := by simp [single, Node.parts]
  have hstatus : IsWord "status" := ⟨⟨'s', "tatus".toList, rfl, by decide, List.all_eq_true.mp (by cbv)⟩, by cbv⟩
  have hmessage : IsWord "message" := ⟨⟨'m', "essage".toList, rfl, by decide, List.all_eq_true.mp (by cbv)⟩, by cbv⟩
  have hslow : IsWord "slow" := ⟨⟨'s', "low".toList, rfl, by decide, List.all_eq_true.mp (by cbv)⟩, by cbv⟩
  refine ⟨hread, (hsubject _ _ _ hread hpart rfl).2 ⟨_, rfl⟩, ?_, ?_⟩
  · exact (hexact ⟨"status", .number⟩ .less (.field ⟨"message", .text⟩) ⟨hstatus, rfl⟩ ⟨hmessage, rfl⟩
      (fun l => Operand.noConfusion) rfl).mpr rfl
  · exact (hexact ⟨"status", .number⟩ .less (.rule "slow") ⟨hstatus, rfl⟩ ⟨hslow, rfl, by cbv⟩
      (fun l => Operand.noConfusion) rfl).mpr rfl

/-- With the sides swapped, neither of them is read. -/
theorem ordering_misses_right_side :
    let r := Reader.mk statusCatalog (some slowRegistry) 64
    r.read "status < message" = .ok (single statusBelowMessage) ∧
      r.read "message > status" = .error (.incompatibleOperator .greater "message" .text) ∧
      r.read "status < slow" = .ok (single statusBelowSlow) ∧
      r.read "slow > status" = .error (.incompatibleOperator .greater "slow" .boolean) ∧
      ¬ ∀ text t c, r.read text = .ok t → .comparison c ∈ t.parts → c.op.isOrdering = true →
        c.left.isOrdered = true ∧ c.right.isOrdered = true := by
  intro r
  have hread : r.read "status < message" = .ok (single statusBelowMessage) := by cbv
  refine ⟨hread, by cbv, by cbv, by cbv, fun h => ?_⟩
  have hpart : .comparison statusBelowMessage ∈ (single statusBelowMessage).parts := by
    simp [single, Node.parts]
  exact Bool.noConfusion (h _ _ _ hread hpart rfl).2

end LogQuery.Filter
