import LogQuery.Proofs.Filter.Outcome
import LogQuery.Proofs.Filter.RoundTrip
import LogQuery.Proofs.Log.Resolution

/-!
# Proofs.Log.PayloadDate — dates beside parts of a payload

Beside a field that is declared dynamic, a date stands for its canonical text. Parts of a payload are
dynamic in the catalog, but the resolver of entries declares each of them with the type of its value. So a
date beside a part of a payload is refused, while its text is compared.

* `compareField_dynamic_date`: the rule for fields that are declared dynamic.
* `fieldValue?_ne_date`: a part of a payload is never a date.
* `evaluate_field`: the evaluation of a comparison of a field with a constant.
* `payload_date_iff_text`: date and text agree exactly on the entries that lack the part.
-/

namespace LogQuery.Filter

/-! ## Dates beside fields -/

/-- Beside a field that is declared dynamic, a date in the years `0` to `9999` means its canonical text. -/
theorem compareField_dynamic_date (op : Comparator) (name : String) (value : FieldValue) {d : Instant}
    (hd : 0 ≤ d.date.year ∧ d.date.year ≤ 9999) :
    compareField op name ⟨value, .dynamic⟩ (.date d) =
      compareField op name ⟨value, .dynamic⟩ (.text d.canonical) := by
  cases value with
  | date left =>
    have hread : literalDate name (.text d.canonical) = literalDate name (.date d) := by
      simp only [literalDate, Instant.ofText?_canonical hd]
    show compareDate op name (.date left) (.date d) = compareDate op name (.date left) (.text d.canonical)
    simp only [compareDate, hread]
  | _ => rfl

section

variable (op : Comparator) (name : String) {value : FieldValue} (d : Instant)

/-- A field that is declared with the type of its value, which is no date, is not compared with a date. -/
theorem compareField_natural_date (h : value.naturalType ≠ .date) :
    compareField op name ⟨value, value.naturalType⟩ (.date d) = incompatible name value.naturalType (.date d) := by
  cases value with
  | date left => exact absurd rfl h
  | _ => rfl

/-- Beside a text it is compared, or refused with other words. -/
theorem compareField_natural_text (h : value.naturalType ≠ .date) (s : String) :
    compareField op name ⟨value, value.naturalType⟩ (.text s) ≠ incompatible name value.naturalType (.date d) := by
  have hkind : ∀ before : String, before ++ (Literal.text s).kind ≠ before ++ (Literal.date d).kind := by
    intro before heq
    have hhead := congrArg (fun t : String => t.toList.head?) ((String.append_right_inj before).mp heq)
    simp [Literal.kind] at hhead
  intro heq
  cases value with
  | date left => exact h rfl
  | text left =>
    have htext : compareText op name .text left (.text s) = incompatible name .text (.date d) := heq
    cases op <;>
      simp [compareText, incompatible, unsupported, mismatch, String.ext_iff] at htext
  | number left => exact hkind _ (EvalError.typeMismatch.inj (Except.error.inj heq))
  | boolean left => exact hkind _ (EvalError.typeMismatch.inj (Except.error.inj heq))

/-- The errors tell a date from every text. -/
theorem compareOutcome_natural_ne (h : value.naturalType ≠ .date) (s : String) :
    (compareOutcome op (.field name ⟨value, value.naturalType⟩) (.literal (.date d))).2 ≠
      (compareOutcome op (.field name ⟨value, value.naturalType⟩) (.literal (.text s))).2 := by
  have htext := compareField_natural_text op name d h s
  simp only [compareOutcome, compare, compareField_natural_date op name d h]
  cases hcompare : compareField op name ⟨value, value.naturalType⟩ (.text s) with
  | ok verdict => exact List.cons_ne_nil _ _
  | error err =>
    intro heq
    rw [hcompare] at htext
    exact htext (congrArg Except.error (List.cons.inj heq).1.symm)

end

/-- A comparison of a field with a constant is the lookup of the field and the comparison of its value. -/
theorem evaluate_field {ρ : Type} (e : Evaluator ρ) (record : ρ) (f : FieldRef) (op : Comparator) (l : Literal) :
    let o : Outcome := match e.resolver.resolve record f.name with
      | none => (false, [.fieldNotFound f.name])
      | some field => compareOutcome op (.field f.name field) (.literal l)
    (e.evaluate (.compare (.field f) op (.literal l)) record).1 = o.1 ∧
      (e.evaluate (.compare (.field f) op (.literal l)) record).2.errors = o.2 := by
  obtain ⟨levels, hlimit⟩ : ∃ k, e.limit = k + 1 := ⟨e.limit - 1, (Nat.sub_add_cancel (le_max_right _ _)).symm⟩
  have herror : ∀ err : EvalError, err.isDepth = false → (({} : Context).addErrors [err]).errors = [err] := by
    intro err h
    rw [Context.addErrors_singleton _ h]
    rfl
  rw [evaluate_eq_outcome, hlimit]
  simp only [Node.compare, outcome, comparisonOutcome, sideOutcome]
  cases e.resolver.resolve record f.name with
  | none => exact ⟨rfl, herror _ rfl⟩
  | some field =>
    simp only [compareOutcome]
    cases hcompare : compare op (.field f.name field) (.literal l) with
    | ok verdict => exact ⟨trivial, rfl⟩
    | error err =>
      obtain ⟨reason, rfl⟩ := compare_mismatch _ _ _ _ hcompare
      exact ⟨trivial, herror _ rfl⟩

end LogQuery.Filter

namespace LogQuery.Log

open LogQuery.Filter

theorem fieldValue?_ne_date {j : Json} {value : FieldValue} (h : fieldValue? j = some value) :
    value.naturalType ≠ .date := by
  cases j <;> simp [fieldValue?] at h <;> simp [← h, FieldValue.naturalType]

/-- A part of the payload, as a field of the catalog, compared with a constant. -/
def payloadAgainst (path : String) (op : Comparator) (l : Literal) : Node :=
  .compare (.field ⟨"payload." ++ path, .dynamic⟩) op (.literal l)

/-- The evaluator of filters on entries. -/
def entryEvaluator (ignoringCase : List String) (registry : Registry) (maxDepth : ℕ) : Evaluator Entry :=
  ⟨resolver ignoringCase, registry, maxDepth⟩

/-- **A date beside a part of the payload is not compared as its text.** The date and its canonical text
give the same verdict and the same errors exactly where the payload does not hold the part, or holds a null
there. Beside every text, number, boolean, list and object the errors differ, under every operator. -/
theorem payload_date_iff_text (ignoringCase : List String) (registry : Registry) (maxDepth : ℕ) (entry : Entry)
    (path : String) (op : Comparator) (d : Instant) :
    let e := entryEvaluator ignoringCase registry maxDepth
    let asDate := e.evaluate (payloadAgainst path op (.date d)) entry
    let asText := e.evaluate (payloadAgainst path op (.text d.canonical)) entry
    (asDate.1 = asText.1 ∧ asDate.2.errors = asText.2.errors) ↔
      entry.payloadPart? path = none ∨ entry.payloadPart? path = some .null := by
  intro e asDate asText
  have hresolve : e.resolver.resolve entry ("payload." ++ path) =
      ((entry.payloadPart? path).bind fieldValue?).map fun value => ⟨value, value.naturalType⟩ :=
    resolve_payload ignoringCase entry path
  have hnone : (entry.payloadPart? path).bind fieldValue? = none ↔
      entry.payloadPart? path = none ∨ entry.payloadPart? path = some .null := by
    cases entry.payloadPart? path with
    | none => simp
    | some j => cases j <;> simp [fieldValue?]
  obtain ⟨hverdict, herrors⟩ := evaluate_field e entry ⟨"payload." ++ path, .dynamic⟩ op (.date d)
  obtain ⟨hverdict', herrors'⟩ := evaluate_field e entry ⟨"payload." ++ path, .dynamic⟩ op (.text d.canonical)
  simp only [asDate, asText, payloadAgainst, hverdict, herrors, hverdict', herrors', hresolve, ← hnone]
  cases hvalue : (entry.payloadPart? path).bind fieldValue? with
  | none => simp
  | some value =>
    obtain ⟨j, -, hj⟩ := Option.bind_eq_some_iff.mp hvalue
    have hne := compareOutcome_natural_ne op ("payload." ++ path) d (fieldValue?_ne_date hj) d.canonical
    exact iff_of_false (fun h => hne h.2) (Option.some_ne_none value)

/-- An entry whose payload holds the text of `newYear`. -/
def bootEntry : Entry where
  component := "core"
  componentId := ""
  timestamp := newYear
  level := "INFO"
  message := "boot \x7b\x22at\x22: \x222024-01-01T00:00:00Z\x22\x7d"
  raw := "core | 2024-01-01T00:00:00Z [INFO] boot \x7b\x22at\x22: \x222024-01-01T00:00:00Z\x22\x7d"
  payload := some (.object [("at", .text "2024-01-01T00:00:00Z")])
  line := 1

/-- The part is equal to the text of the instant, and refused beside the instant. -/
theorem payload_date_refused :
    let e := entryEvaluator [] .empty 64
    newYear.canonical = "2024-01-01T00:00:00Z" ∧
      bootEntry.payloadPart? "at" = some (.text newYear.canonical) ∧
      (e.evaluate (payloadAgainst "at" .equal (.text newYear.canonical)) bootEntry).1 = true ∧
      (e.evaluate (payloadAgainst "at" .equal (.date newYear)) bootEntry).1 = false ∧
      (e.evaluate (payloadAgainst "at" .equal (.date newYear)) bootEntry).2.errors =
        [.typeMismatch "cannot compare text field 'payload.at' with date"] := by
  intro e
  have hcanonical : newYear.canonical = "2024-01-01T00:00:00Z" := by cbv
  have hpart : bootEntry.payloadPart? "at" = some (.text newYear.canonical) := by rw [hcanonical]; cbv
  have hresolve : e.resolver.resolve bootEntry ("payload." ++ "at") = some ⟨.text newYear.canonical, .text⟩ := by
    refine (resolve_payload [] bootEntry "at").trans ?_
    rw [hpart]
    rfl
  refine ⟨hcanonical, hpart, ?_, ?_, ?_⟩
  · rw [payloadAgainst, (evaluate_field _ _ _ _ _).1, hresolve]
    exact beq_self_eq_true newYear.canonical
  · rw [payloadAgainst, (evaluate_field _ _ _ _ _).1, hresolve]
    rfl
  · rw [payloadAgainst, (evaluate_field _ _ _ _ _).2, hresolve]
    rfl

end LogQuery.Log
