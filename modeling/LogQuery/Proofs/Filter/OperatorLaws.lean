import LogQuery.Filter.Compare
import LogQuery.Proofs.Filter.Image
import Mathlib

/-!
# Proofs.Filter.OperatorLaws — how the comparison operators fit each other

Equality and order of two sides go through six types, texts that are read as numbers and dates, and a case of
its own for NaN. All operators go the same way, so that one order of the two sides, or the lack of one, decides
all of them at once. Which order it is never matters here.

* `Comparator.holds`: what an operator says of an order.
* `Side.IsNaN`: a NaN, or a text that is read as one.
* `compareField_ordering`, `compareField_ordered`: an operator of order gives a verdict on two numbers or two
  dates only, and their order decides all operators.
* `compareField_opposite`: `==` and `!=` are opposite or both fail.
* `compare_related`: what follows for the verdicts on any two sides.
-/

namespace LogQuery.Filter

/-! ## What an operator says of an order -/

namespace Comparator

/-- Whether the operator asks for equality or for an order. -/
def isRelation (op : Comparator) : Bool := op.isOrdering || op == .equal || op == .notEqual

/-- Whether the operator holds of two values in this order. Values without an order are different. -/
def holds : Comparator → Option Ordering → Bool
  | .equal, order => order == some .eq
  | .notEqual, order => order != some .eq
  | .less, order => order == some .lt
  | .greater, order => order == some .gt
  | .lessEqual, order => order == some .lt || order == some .eq
  | .greaterEqual, order => order == some .gt || order == some .eq
  | _, _ => false

/-- Seen from the other side, the order is the opposite one. -/
theorem holds_swap (op : Comparator) (order : Option Ordering) :
    op.holds (order.map Ordering.swap) = op.mirrored.holds order := by
  cases op <;> rcases order with _ | _ | _ | _ <;> rfl

theorem isOrdering_mirrored (op : Comparator) : op.mirrored.isOrdering = op.isOrdering := by
  cases op <;> rfl

theorem isRelation_mirrored (op : Comparator) : op.mirrored.isRelation = op.isRelation := by
  cases op <;> rfl

theorem ordering_cases {op : Comparator} (h : op.isOrdering = true) :
    op = .less ∨ op = .greater ∨ op = .lessEqual ∨ op = .greaterEqual := by
  cases op <;> simp [isOrdering] at h ⊢

end Comparator

/-! ## Values that are read as NaN -/

/-- The number that a constant is, or that its text is read as. -/
def Literal.number? : Literal → Option Number
  | .number n => some n
  | .text s => Number.ofText? (Text.trim s)
  | _ => none

/-- The constant on a side; for a field, its value as a constant. -/
def Side.constant : Side → Literal
  | .field _ f => f.value.toLiteral
  | .literal l => l

/-- The side is a NaN, or a text that is read as one. -/
def Side.IsNaN (side : Side) : Prop := side.constant.number? = some .nan

theorem exists_digit_of_fixedDigits? {count value : ℕ} {cs : List Char} {r : ℕ × List Char}
    (h : Instant.fixedDigits? (count + 1) value cs = some r) : ∃ c ds, cs = c :: ds ∧ c.isDigit = true := by
  cases cs with
  | nil => cases h
  | cons c ds =>
    obtain ⟨digit, hdigit, -⟩ := Option.bind_eq_some_iff.mp h
    unfold Instant.digit? at hdigit
    split_ifs at hdigit with hc
    exact ⟨c, ds, rfl, hc⟩

/-- A text that is read as a date begins with a digit. -/
theorem exists_digit_of_ofText? {s : String} {d : Instant} (h : Instant.ofText? s = some d) :
    ∃ c cs, Text.trimChars s.toList = c :: cs ∧ c.isDigit = true := by
  obtain ⟨year, hyear, -⟩ := Option.bind_eq_some_iff.mp h
  exact exists_digit_of_fixedDigits? hyear

/-- A text that is read as a date is not read as a NaN. -/
theorem ofText?_ne_nan {s : String} {d : Instant} (h : Instant.ofText? s = some d) :
    Number.ofText? (Text.trim s) ≠ some .nan := by
  obtain ⟨c, cs, hcs, hdigit⟩ := exists_digit_of_ofText? h
  intro hnan
  rw [Number.ofText?, Text.trim, String.toList_ofList, hcs, Number.ofChars?_of_digit hdigit] at hnan
  exact unsigned?_ne_nan (by rw [hdigit]; rfl) hnan rfl

theorem compare?_eq_none_iff {a b : Number} : a.compare? b = none ↔ a = .nan ∨ b = .nan := by
  cases a <;> cases b <;> simp [Number.compare?]

theorem numberOf_ok {name : String} {value : FieldValue} {n : Number} (h : numberOf name value = .ok n) :
    value.toLiteral.number? = some n := by
  cases value with
  | number m => exact congrArg some (Except.ok.inj h)
  | text s =>
    simp only [numberOf] at h
    split at h
    · rename_i m hm
      obtain rfl := Except.ok.inj h
      exact hm
    · exact nomatch h
  | _ => exact nomatch h

theorem dateOf_ok {name : String} {value : FieldValue} {d : Instant} (h : dateOf name value = .ok d) :
    value.toLiteral.number? ≠ some .nan := by
  cases value with
  | date d => exact fun hnan => nomatch hnan
  | text s =>
    simp only [dateOf] at h
    split at h
    · rename_i d' hd
      exact ofText?_ne_nan hd
    · exact nomatch h
  | _ => exact nomatch h

theorem literalDate_ok {name : String} {l : Literal} {d : Instant} (h : literalDate name l = .ok d) :
    l.number? ≠ some .nan := by
  cases l with
  | date d => exact fun hnan => nomatch hnan
  | text s =>
    simp only [literalDate] at h
    split at h
    · rename_i d' hd
      exact ofText?_ne_nan hd
    · exact nomatch h
  | _ => exact nomatch h

/-! ## One order decides all operators -/

section

variable {op : Comparator} {name : String} {l : Literal} {value : FieldValue} {verdict : Bool}

theorem applyOrdering_relation (hop : op.isRelation = true) (name : String) (declared : FieldType)
    (order : Ordering) : applyOrdering op name declared order = .ok (op.holds (some order)) := by
  cases op with
  | contains => exact nomatch hop
  | isIn => exact nomatch hop
  | «matches» => exact nomatch hop
  | _ => cases order <;> rfl

theorem compareDate_relation {a b : Instant} (ha : dateOf name value = .ok a) (hb : literalDate name l = .ok b)
    (hop : op.isRelation = true) : compareDate op name value l = .ok (op.holds (some (a.compare b))) := by
  simp only [compareDate, ha, hb, bind, Except.bind, applyOrdering_relation hop]

theorem compareNumber_relation {a b : Number} (ha : numberOf name value = .ok a) (hop : op.isRelation = true) :
    compareNumber op name value (.number b) = .ok (op.holds (a.compare? b)) := by
  simp only [compareNumber, ha, bind, Except.bind]
  cases a.compare? b with
  | some order => exact applyOrdering_relation hop name .number order
  | none =>
    cases op with
    | contains => exact nomatch hop
    | isIn => exact nomatch hop
    | «matches» => exact nomatch hop
    | _ => rfl

theorem compareDate_ok (h : compareDate op name value l = .ok verdict) :
    ∃ a b, dateOf name value = .ok a ∧ literalDate name l = .ok b := by
  unfold compareDate at h
  obtain ⟨a, ha, h'⟩ := bind_eq_ok.mp h
  obtain ⟨b, hb, -⟩ := bind_eq_ok.mp h'
  exact ⟨a, b, ha, hb⟩

theorem compareNumber_ok (h : compareNumber op name value l = .ok verdict) :
    ∃ a b, numberOf name value = .ok a ∧ l = .number b := by
  unfold compareNumber at h
  obtain ⟨a, ha, h'⟩ := bind_eq_ok.mp h
  cases l with
  | number b => exact ⟨a, b, ha, rfl⟩
  | _ => exact nomatch h'

theorem compareBoolean_ordering (hop : op.isOrdering = true) :
    ∃ err, compareBoolean op name value l = .error err := by
  cases value with
  | boolean a =>
    cases l with
    | boolean b => rcases Comparator.ordering_cases hop with rfl | rfl | rfl | rfl <;> exact ⟨_, rfl⟩
    | _ => exact ⟨_, rfl⟩
  | _ => exact ⟨_, rfl⟩

theorem compareText_ordering {declared : FieldType} {text : String} (hop : op.isOrdering = true) :
    ∃ err, compareText op name declared text l = .error err := by
  cases l with
  | text s => rcases Comparator.ordering_cases hop with rfl | rfl | rfl | rfl <;> exact ⟨_, rfl⟩
  | _ => exact ⟨_, rfl⟩

theorem compareSet_ordering {declared : FieldType} {text : String} {values : List String}
    (hop : op.isOrdering = true) : ∃ err, compareSet op name declared text values = .error err := by
  rcases Comparator.ordering_cases hop with rfl | rfl | rfl | rfl <;> exact ⟨_, rfl⟩

theorem comparePattern_ordering {text : String} {p : Pattern} (hop : op.isOrdering = true) :
    ∃ err, comparePattern op text p = .error err := by
  rcases Comparator.ordering_cases hop with rfl | rfl | rfl | rfl <;> exact ⟨_, rfl⟩

end

section

variable {op : Comparator} {name : String} {f : ResolvedField} {l : Literal}

theorem eq_number_of_effectiveLiteral {n : Number} (h : effectiveLiteral f l = .number n) : l = .number n := by
  unfold effectiveLiteral at h
  split at h
  · split_ifs at h
  · exact h

/-- What a date beside a field stands for is no NaN if it is read as a date. -/
theorem number?_ne_nan_of_effectiveLiteral {d : Instant}
    (h : literalDate name (effectiveLiteral f l) = .ok d) : l.number? ≠ some .nan := by
  cases l with
  | date d => exact fun hnan => nomatch hnan
  | _ => exact literalDate_ok h

theorem compareField_number {n : Number} (htype : effectiveType f = .number)
    (hl : effectiveLiteral f l = .number n) :
    compareField op name f l = compareNumber op name f.value (.number n) := by
  simp only [compareField, hl, htype]

theorem compareField_date {d : Instant} (htype : effectiveType f = .date)
    (hl : literalDate name (effectiveLiteral f l) = .ok d) :
    compareField op name f l = compareDate op name f.value (effectiveLiteral f l) := by
  simp only [compareField, htype]
  generalize effectiveLiteral f l = l' at hl
  cases l' with
  | pattern p => exact nomatch hl
  | set values => exact nomatch hl
  | _ => rfl

/-- An operator of order gives a verdict on two numbers and on two dates only. -/
theorem compareField_ordering {verdict : Bool} (h : compareField op name f l = .ok verdict)
    (hop : op.isOrdering = true) :
    (∃ a b, effectiveType f = .number ∧ numberOf name f.value = .ok a ∧ effectiveLiteral f l = .number b) ∨
      ∃ a b, effectiveType f = .date ∧ dateOf name f.value = .ok a ∧
        literalDate name (effectiveLiteral f l) = .ok b := by
  have hfails : ∀ {v : Verdict}, (∃ err, v = .error err) → v = .ok verdict → False := by
    rintro v ⟨err, rfl⟩ h
    exact nomatch h
  unfold compareField at h
  dsimp only at h
  split at h
  · exact (hfails (comparePattern_ordering hop) h).elim
  · exact (hfails (compareSet_ordering hop) h).elim
  · split at h
    case h_1 htype =>
      obtain ⟨a, b, ha, hb⟩ := compareDate_ok h
      exact .inr ⟨a, b, htype, ha, hb⟩
    case h_2 htype =>
      obtain ⟨a, b, ha, hb⟩ := compareNumber_ok h
      exact .inl ⟨a, b, htype, ha, hb⟩
    case h_3 => exact (hfails (compareBoolean_ordering hop) h).elim
    all_goals exact (hfails (compareText_ordering hop) h).elim

/-- **One order decides all operators.** Where an operator of order gives a verdict, every operator by
equality or order says what it says of one order of the two sides, which have none if one of them is a NaN. -/
theorem compareField_ordered {verdict : Bool} (h : compareField op name f l = .ok verdict)
    (hop : op.isOrdering = true) : ∃ order,
      (∀ op' : Comparator, op'.isRelation = true → compareField op' name f l = .ok (op'.holds order)) ∧
        (order = none ↔ f.value.toLiteral.number? = some .nan ∨ l.number? = some .nan) := by
  rcases compareField_ordering h hop with ⟨a, b, htype, ha, hb⟩ | ⟨a, b, htype, ha, hb⟩
  · obtain rfl := eq_number_of_effectiveLiteral hb
    refine ⟨a.compare? b, fun op' hop' => ?_, ?_⟩
    · rw [compareField_number htype hb, compareNumber_relation ha hop']
    · rw [compare?_eq_none_iff, numberOf_ok ha]
      simp [Literal.number?]
  · refine ⟨some (a.compare b), fun op' hop' => ?_, ?_⟩
    · rw [compareField_date htype hb, compareDate_relation ha hb hop']
    · simp [dateOf_ok ha, number?_ne_nan_of_effectiveLiteral hb]

end

/-! ## Equality and difference -/

/-- Both verdicts fail, or they are opposite. -/
def Opposite (v w : Verdict) : Prop := w.toOption = v.toOption.map not

theorem applyOrdering_opposite (name : String) (declared : FieldType) (order : Ordering) :
    Opposite (applyOrdering .equal name declared order) (applyOrdering .notEqual name declared order) := by
  cases order <;> rfl

theorem compareDate_opposite (name : String) (value : FieldValue) (l : Literal) :
    Opposite (compareDate .equal name value l) (compareDate .notEqual name value l) := by
  unfold compareDate
  cases dateOf name value with
  | error err => rfl
  | ok a =>
    cases literalDate name l with
    | error err => rfl
    | ok b => exact applyOrdering_opposite name .date (a.compare b)

theorem compareNumber_opposite (name : String) (value : FieldValue) (l : Literal) :
    Opposite (compareNumber .equal name value l) (compareNumber .notEqual name value l) := by
  unfold compareNumber
  cases numberOf name value with
  | error err => rfl
  | ok a =>
    cases l with
    | number b =>
      simp only [bind, Except.bind]
      cases a.compare? b with
      | some order => exact applyOrdering_opposite name .number order
      | none => rfl
    | _ => rfl

theorem compareBoolean_opposite (name : String) (value : FieldValue) (l : Literal) :
    Opposite (compareBoolean .equal name value l) (compareBoolean .notEqual name value l) := by
  cases value with
  | boolean a =>
    cases l with
    | boolean b => cases a <;> cases b <;> rfl
    | _ => rfl
  | _ => rfl

theorem compareText_opposite (name : String) (declared : FieldType) (text : String) (l : Literal) :
    Opposite (compareText .equal name declared text l) (compareText .notEqual name declared text l) := by
  cases l <;> rfl

theorem comparePattern_opposite (text : String) (p : Pattern) :
    Opposite (comparePattern .equal text p) (comparePattern .notEqual text p) := by
  unfold comparePattern
  cases p.find text <;> rfl

/-- Beside a field, `==` and `!=` are opposite or both fail. -/
theorem compareField_opposite (name : String) (f : ResolvedField) (l : Literal) :
    Opposite (compareField .equal name f l) (compareField .notEqual name f l) := by
  unfold compareField
  dsimp only
  split
  · exact comparePattern_opposite _ _
  · rfl
  · split
    · exact compareDate_opposite name f.value _
    · exact compareNumber_opposite name f.value _
    · exact compareBoolean_opposite name f.value _
    all_goals exact compareText_opposite name _ _ _

/-! ## The laws of the operators -/

/-- The verdicts of all operators on two sides, and how they fit each other. -/
structure Related (left right : Side) (verdict : Comparator → Bool) : Prop where
  verdicts : ∀ op : Comparator, op.isRelation = true → compare op left right = .ok (verdict op)
  notEqual : verdict .notEqual = !verdict .equal
  lessEqual : verdict .lessEqual = (verdict .less || verdict .equal)
  greaterEqual : verdict .greaterEqual = (verdict .greater || verdict .equal)
  less_equal : (verdict .less && verdict .equal) = false
  equal_greater : (verdict .equal && verdict .greater) = false
  less_greater : (verdict .less && verdict .greater) = false
  unordered : verdict .less = false ∧ verdict .equal = false ∧ verdict .greater = false ↔
    left.IsNaN ∨ right.IsNaN

/-- An order of the sides that decides all operators relates their verdicts. -/
theorem related_of_order {left right : Side} (order : Option Ordering)
    (hverdicts : ∀ op : Comparator, op.isRelation = true → compare op left right = .ok (op.holds order))
    (hnone : order = none ↔ left.IsNaN ∨ right.IsNaN) : Related left right fun op => op.holds order where
  verdicts := hverdicts
  notEqual := by cases order <;> rfl
  lessEqual := by rfl
  greaterEqual := by rfl
  less_equal := by rcases order with _ | _ | _ | _ <;> rfl
  equal_greater := by rcases order with _ | _ | _ | _ <;> rfl
  less_greater := by rcases order with _ | _ | _ | _ <;> rfl
  unordered := by
    rw [← hnone]
    rcases order with _ | _ | _ | _ <;> simp [Comparator.holds]

/-- **The operators fit each other.** On any two sides `==` and `!=` are opposite or both fail. If one operator
of order gives a verdict, so do all of them and both `==` and `!=`: `<=` is `<` or `==`, `>=` is `>` or `==`, at
most one of `<`, `==` and `>` holds, and none does if and only if one side is a NaN. -/
theorem compare_related (left right : Side) :
    (compare .notEqual left right).toOption = (compare .equal left right).toOption.map not ∧
      ∀ (op : Comparator) (v : Bool), op.isOrdering = true → compare op left right = .ok v →
        ∃ verdict, Related left right verdict := by
  cases left with
  | field name f =>
    cases right with
    | field name' g =>
      refine ⟨compareField_opposite name f _, fun op v hop h => ?_⟩
      obtain ⟨order, hverdicts, hnone⟩ := compareField_ordered h hop
      exact ⟨_, related_of_order order hverdicts hnone⟩
    | literal l =>
      refine ⟨compareField_opposite name f _, fun op v hop h => ?_⟩
      obtain ⟨order, hverdicts, hnone⟩ := compareField_ordered h hop
      exact ⟨_, related_of_order order hverdicts hnone⟩
  | literal l =>
    cases right with
    | field name f =>
      refine ⟨compareField_opposite name f _, fun op v hop h => ?_⟩
      obtain ⟨order, hverdicts, hnone⟩ := compareField_ordered h (op.isOrdering_mirrored.trans hop)
      -- the order is seen from the field on the right
      refine ⟨_, related_of_order (order.map Ordering.swap) (fun op' hop' => ?_) ?_⟩
      · rw [Comparator.holds_swap]
        exact hverdicts op'.mirrored (op'.isRelation_mirrored.trans hop')
      · rw [Option.map_eq_none_iff, hnone, or_comm]
        rfl
    | literal l' => exact ⟨rfl, fun op v hop h => nomatch h⟩

/-- A text that is read as a NaN is beside every number, but has no order with it. -/
theorem compare_related_textNaN :
    let took := Side.field "took" ⟨.text " nan ", .number⟩
    let limit := Side.literal (.number .zero)
    compare .less took limit = .ok false ∧ took.IsNaN ∧ ∃ verdict, Related took limit verdict := by
  intro took limit
  have hless : compare .less took limit = .ok false := by cbv
  exact ⟨hless, by cbv, (compare_related took limit).2 .less false rfl hless⟩

end LogQuery.Filter
