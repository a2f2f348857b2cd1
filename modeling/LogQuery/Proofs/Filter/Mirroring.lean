import LogQuery.Proofs.Filter.OperatorLaws
import Mathlib

/-!
# Proofs.Filter.Mirroring — fields on swapped sides

The field on the left decides how two fields are compared: its declared type says what the value on the right
has to be. With one declared type and values of one type nothing depends on the side, so that the fields may be
swapped and the operator mirrored. Otherwise they may not: a text on the left is read as a number beside a
number, and one on the right is not.

* `instant_compare_swap`, `compare?_swap`: seen from the other side, the order is the opposite one.
* `toOption_applyOrdering`, `toOption_compareNumber`, `toOption_compareText`, …: verdicts without their errors.
* `compareDate_mirrored`, `compareNumber_mirrored`, `compareBoolean_mirrored`, `compareText_mirrored`: the sides
  swapped, type by type.
* `compare_mirrored`: two fields of one type may be swapped.
-/

namespace LogQuery.Filter

/-! ## Orders seen from the other side -/

theorem instant_compare_swap (a b : Instant) : (a.compare b).swap = b.compare a := by
  show (Ord.compare a.parts b.parts).swap = Ord.compare b.parts a.parts
  exact Std.OrientedCmp.eq_swap.symm

theorem compare?_swap (a b : Number) : (a.compare? b).map Ordering.swap = b.compare? a := by
  cases a with
  | nan => cases b <;> rfl
  | infinite s =>
    cases b with
    | nan => rfl
    | infinite t => cases s <;> cases t <;> rfl
    | finite t n => cases s <;> rfl
  | finite s m =>
    cases b with
    | nan => rfl
    | infinite t => cases t <;> rfl
    | finite t n => exact congrArg some Std.OrientedCmp.eq_swap.symm

theorem textEq_comm (declared : FieldType) (s t : String) : textEq declared s t = textEq declared t s := by
  unfold textEq
  split_ifs <;> exact Bool.beq_comm

/-! ## Verdicts without their errors -/

section

variable (op : Comparator) (name : String)

theorem toOption_incompatible (declared : FieldType) (l : Literal) :
    (incompatible name declared l : Verdict).toOption = none := rfl

theorem toOption_wrongValue (declared : FieldType) (v : FieldValue) :
    (wrongValue name declared v : Verdict).toOption = none := rfl

theorem toOption_applyOrdering (declared : FieldType) (order : Ordering) :
    (applyOrdering op name declared order).toOption =
      if op.isRelation then some (op.holds (some order)) else none := by
  split_ifs with hop
  · rw [applyOrdering_relation hop]
    rfl
  · cases op with
    | contains => rfl
    | isIn => rfl
    | «matches» => rfl
    | _ => exact absurd rfl hop

theorem toOption_compareNumber (a b : Number) : (compareNumber op name (.number a) (.number b)).toOption =
    if op.isRelation then some (op.holds (a.compare? b)) else none := by
  have hnumber : numberOf name (.number a) = .ok a := rfl
  split_ifs with hop
  · rw [compareNumber_relation hnumber hop]
    rfl
  · simp only [compareNumber, hnumber, bind, Except.bind]
    cases a.compare? b with
    | some order => rw [toOption_applyOrdering, if_neg hop]
    | none =>
      cases op with
      | contains => rfl
      | isIn => rfl
      | «matches» => rfl
      | _ => exact absurd rfl hop

theorem toOption_compareBoolean (a b : Bool) : (compareBoolean op name (.boolean a) (.boolean b)).toOption =
    match op with
    | .equal => some (a == b)
    | .notEqual => some (a != b)
    | _ => none := by
  cases op <;> rfl

theorem toOption_compareText (declared : FieldType) (s t : String) :
    (compareText op name declared s (.text t)).toOption =
      match op with
      | .equal => some (textEq declared s t)
      | .notEqual => some (!textEq declared s t)
      | .contains => some (textContains declared s t)
      | .isIn => some (textContains declared t s)
      | _ => none := by
  cases op <;> rfl

/-- The date that a value is, or that its text is read as. -/
def FieldValue.date? : FieldValue → Option Instant
  | .date d => some d
  | .text s => Instant.ofText? s
  | _ => none

theorem toOption_dateOf (v : FieldValue) : (dateOf name v).toOption = v.date? := by
  cases v with
  | text s =>
    simp only [dateOf, FieldValue.date?]
    cases Instant.ofText? s <;> rfl
  | _ => rfl

theorem toOption_literalDate (v : FieldValue) : (literalDate name v.toLiteral).toOption = v.date? := by
  cases v with
  | text s =>
    simp only [literalDate, FieldValue.toLiteral, FieldValue.date?]
    cases Instant.ofText? s <;> rfl
  | _ => rfl

theorem toOption_compareDate (v w : FieldValue) : (compareDate op name v w.toLiteral).toOption =
    v.date?.bind fun a => w.date?.bind fun b => (applyOrdering op name .date (a.compare b)).toOption := by
  rw [← toOption_dateOf name v, ← toOption_literalDate name w, compareDate]
  cases dateOf name v with
  | error err => rfl
  | ok a => cases literalDate name w.toLiteral <;> rfl

end

/-! ## Values on swapped sides -/

section

variable (op : Comparator) (name name' : String)

theorem applyOrdering_mirrored (declared : FieldType) (order : Ordering) :
    (applyOrdering op.mirrored name' declared order.swap).toOption =
      (applyOrdering op name declared order).toOption := by
  rw [toOption_applyOrdering, toOption_applyOrdering, op.isRelation_mirrored, ← Comparator.holds_swap,
    Option.map_some, Ordering.swap_swap]

/-- Two dates, or texts that are read as dates, may be swapped. -/
theorem compareDate_mirrored (v w : FieldValue) :
    (compareDate op.mirrored name' w v.toLiteral).toOption = (compareDate op name v w.toLiteral).toOption := by
  rw [toOption_compareDate, toOption_compareDate]
  cases v.date? with
  | none => cases w.date? <;> rfl
  | some a =>
    cases w.date? with
    | none => rfl
    | some b =>
      show (applyOrdering op.mirrored name' .date (b.compare a)).toOption = _
      rw [← instant_compare_swap a b]
      exact applyOrdering_mirrored op name name' .date (a.compare b)

section

variable {v w : FieldValue} (h : v.naturalType = w.naturalType)
include h

/-- Two numbers may be swapped. A text on the right is not read as a number. -/
theorem compareNumber_mirrored : (compareNumber op.mirrored name' w v.toLiteral).toOption =
    (compareNumber op name v w.toLiteral).toOption := by
  have hother : ∀ (op : Comparator) (name : String) (v w : FieldValue), w.naturalType ≠ .number →
      (compareNumber op name v w.toLiteral).toOption = none := by
    intro op name v w hw
    unfold compareNumber
    cases numberOf name v with
    | error err => rfl
    | ok a =>
      cases w with
      | number b => exact absurd rfl hw
      | _ => rfl
  by_cases hv : v.naturalType = .number
  · cases v with
    | number a =>
      cases w with
      | number b =>
        have hmirrored : op.mirrored.holds (b.compare? a) = op.holds (a.compare? b) := by
          rw [← Comparator.holds_swap, compare?_swap]
        simp only [FieldValue.toLiteral, toOption_compareNumber, op.isRelation_mirrored, hmirrored]
      | _ => cases h
    | _ => cases hv
  · rw [hother _ _ _ _ hv, hother _ _ _ _ (h ▸ hv)]

theorem compareBoolean_mirrored : (compareBoolean op.mirrored name' w v.toLiteral).toOption =
    (compareBoolean op name v w.toLiteral).toOption := by
  cases v with
  | boolean a =>
    cases w with
    | boolean b =>
      simp only [FieldValue.toLiteral, toOption_compareBoolean]
      cases op with
      | equal => exact congrArg some Bool.beq_comm
      | notEqual => exact congrArg (fun e => some (!e)) Bool.beq_comm
      | _ => rfl
    | _ => cases h
  | _ =>
    cases w with
    | boolean b => cases h
    | _ => simp only [compareBoolean, toOption_wrongValue]

/-- Two texts may be swapped: equality is symmetric, and a text has a part where the part is in the text. -/
theorem compareText_mirrored (declared : FieldType) :
    (compareText op.mirrored name' declared w.render v.toLiteral).toOption =
      (compareText op name declared v.render w.toLiteral).toOption := by
  cases v with
  | text s =>
    cases w with
    | text t =>
      simp only [FieldValue.toLiteral, FieldValue.render, toOption_compareText]
      cases op with
      | equal => exact congrArg some (textEq_comm declared t s)
      | notEqual => exact congrArg (fun e => some (!e)) (textEq_comm declared t s)
      | _ => rfl
    | _ => cases h
  | _ =>
    cases w with
    | text t => cases h
    | _ => simp only [compareText, FieldValue.toLiteral, toOption_incompatible]

end

end

/-! ## Fields on swapped sides -/

section

variable {f g : ResolvedField}

/-- Beside a value of the same type, a date of a dynamic field stays a date. -/
theorem effectiveLiteral_toLiteral (h : f.value.naturalType = g.value.naturalType) :
    effectiveLiteral f g.value.toLiteral = g.value.toLiteral := by
  cases hg : g.value with
  | date d =>
    rw [hg] at h
    exact if_neg fun hdynamic => hdynamic.2 h
  | _ => rfl

/-- A field beside a field is compared by its type. -/
theorem compareField_toLiteral (op : Comparator) (name : String) (h : f.value.naturalType = g.value.naturalType) :
    compareField op name f g.value.toLiteral =
      match effectiveType f with
      | .date => compareDate op name f.value g.value.toLiteral
      | .number => compareNumber op name f.value g.value.toLiteral
      | .boolean => compareBoolean op name f.value g.value.toLiteral
      | declared => compareText op name declared f.value.render g.value.toLiteral := by
  simp only [compareField, effectiveLiteral_toLiteral h]
  cases g.value <;> cases effectiveType f <;> rfl

/-- **Two fields may be swapped with the mirrored operator.** Let them have the same declared type, and values of
one type, as those that fit a declared type have. Then both comparisons fail, or they give the same verdict. -/
theorem compare_mirrored (op : Comparator) (name name' : String) (hdeclared : f.declared = g.declared)
    (hnatural : f.value.naturalType = g.value.naturalType) :
    (compare op.mirrored (.field name' g) (.field name f)).toOption =
      (compare op (.field name f) (.field name' g)).toOption := by
  have htype : effectiveType g = effectiveType f := by
    unfold effectiveType
    rw [hdeclared, hnatural]
  simp only [compare, compareField_toLiteral _ _ hnatural, compareField_toLiteral _ _ hnatural.symm, htype]
  cases effectiveType f with
  | date => exact compareDate_mirrored op name name' f.value g.value
  | number => exact compareNumber_mirrored op name name' hnatural
  | boolean => exact compareBoolean_mirrored op name name' hnatural
  | _ => exact compareText_mirrored op name name' hnatural _

end

/-- In any case, a text has a word as a part and the word is in the text. -/
theorem compare_mirrored_timeout :
    let message : ResolvedField := ⟨.text "Timeout", .textIgnoreCase⟩
    let word : ResolvedField := ⟨.text "OUT", .textIgnoreCase⟩
    message.declared = word.declared ∧ message.value.naturalType = word.value.naturalType ∧
      (compare .contains (.field "message" message) (.field "word" word)).toOption = some true ∧
      (compare .isIn (.field "word" word) (.field "message" message)).toOption = some true := by
  intro message word
  have hdeclared : message.declared = word.declared := rfl
  have hnatural : message.value.naturalType = word.value.naturalType := rfl
  have hcontains : (compare .contains (.field "message" message) (.field "word" word)).toOption = some true := by
    cbv
  have hin := compare_mirrored .contains "message" "word" hdeclared hnatural
  exact ⟨hdeclared, hnatural, hcontains, hin.trans hcontains⟩

end LogQuery.Filter
