import LogQuery.Filter.Compare
import Mathlib.Tactic.SplitIfs

/-!
# Proofs.Filter.Mismatch — what comparisons report

A comparison that fails reports that two sides cannot be compared, and nothing else. Its words are about
the values, unless a pattern is at fault or there is no field to compare.

* `OnlyMismatch P`: an error can only be a mismatch, with words for which `P` holds.
* `ByValue`, `Misformed`: the words about values, and those about the form of a comparison.
* `compareField_mismatch`: beside a field, only a pattern is reported for anything but the values.
* `compare_mismatch`: every error of a comparison is a mismatch.
-/

namespace LogQuery.Filter

/-! ## Words -/

/-- The words for values that do not fit each other, their declared type or the operator. -/
inductive ByValue : String → Prop where
  | type (declared : FieldType) (name kind : String) :
      ByValue ("cannot compare " ++ declared.name ++ " field '" ++ name ++ "' with " ++ kind)
  | operator (op : Comparator) (declared : FieldType) (name against : String) :
      ByValue ("operator " ++ op.label ++ " cannot compare " ++ declared.name ++ " field '" ++ name ++
        "' with " ++ against)
  | declared (declared : FieldType) (name kind : String) :
      ByValue ("field '" ++ name ++ "' is declared as " ++ declared.name ++ " but holds a " ++ kind)
  | text (name s : String) :
      ByValue ("MATCHES on '" ++ name ++ "' needs a pattern, got text \"" ++ s ++ "\"")
  | dateValue (name s : String) : ByValue ("value of '" ++ name ++ "' is not a date: \"" ++ s ++ "\"")
  | numberValue (name s : String) : ByValue ("value of '" ++ name ++ "' is not a number: \"" ++ s ++ "\"")
  | date (s : String) : ByValue ("\"" ++ s ++ "\" is not a date in the canonical format " ++ dateFormat)

/-- The words for a pattern that has not compiled, for a pattern under an operator for which there is no
search, and for two constants. -/
def Misformed (reason : String) : Prop :=
  (∃ source, reason = "malformed pattern literal /" ++ source ++ "/") ∨
    (∃ op : Comparator, reason = "operator " ++ op.label ++ " cannot be used with a pattern") ∨
    reason = "a comparison needs a field on at least one side"

theorem ne_of_head {s t : String} (h : s.toList.head? ≠ t.toList.head?) : s ≠ t :=
  fun heq => h (heq ▸ rfl)

/-- A label is one word, so that what follows it is found again. -/
theorem label_append_inj {op op' : Comparator} {s t : List Char}
    (h : op.label.toList ++ ' ' :: s = op'.label.toList ++ ' ' :: t) : s = t := by
  have hword : ∀ op : Comparator, ∀ c ∈ op.label.toList, (c != ' ') = true := by
    intro op
    cases op <;> simp [Comparator.label]
  have hcut : ∀ (op : Comparator) (s : List Char),
      (op.label.toList ++ ' ' :: s).dropWhile (· != ' ') = ' ' :: s := by
    intro op s
    rw [List.dropWhile_append_of_pos (hword op)]
    rfl
  have hrest := congrArg (List.dropWhile (· != ' ')) h
  rw [hcut, hcut] at hrest
  exact (List.cons.inj hrest).2

theorem ByValue.not_misformed {reason : String} (h : ByValue reason) : ¬ Misformed reason := by
  rintro (⟨source, heq⟩ | ⟨op, heq⟩ | heq)
  · refine ne_of_head ?_ heq
    cases h <;> simp
  · cases h with
    | operator op' declared name against =>
      -- both begin with an operator; what follows it tells them apart
      have htext := congrArg String.toList heq
      have hcompare : " cannot compare ".toList = ' ' :: "cannot compare ".toList := by simp
      have hpattern : " cannot be used with a pattern".toList = ' ' :: "cannot be used with a pattern".toList := by
        simp
      simp only [String.toList_append, List.append_assoc, hcompare, hpattern, List.cons_append] at htext
      have hrest := label_append_inj (List.append_cancel_left htext)
      simp at hrest
    | _ =>
      refine ne_of_head ?_ heq
      simp
  · refine ne_of_head ?_ heq
    cases h <;> simp

/-! ## Comparisons report nothing but mismatches -/

/-- An error can only be that values cannot be compared, in words for which `P` holds. -/
def OnlyMismatch {α : Type} (P : String → Prop) (v : Except EvalError α) : Prop :=
  ∀ err, v = .error err → ∃ reason, err = .typeMismatch reason ∧ P reason

section

variable {P : String → Prop}

theorem onlyMismatch_ok {α : Type} (a : α) : OnlyMismatch P (.ok a) := fun _ h => nomatch h

theorem onlyMismatch_mismatch {α : Type} {reason : String} (h : P reason) :
    OnlyMismatch P (mismatch reason : Except EvalError α) :=
  fun _ herr => ⟨reason, (Except.error.inj herr).symm, h⟩

theorem OnlyMismatch.bind {α β : Type} {v : Except EvalError α} {f : α → Except EvalError β}
    (hv : OnlyMismatch P v) (hf : ∀ a, OnlyMismatch P (f a)) : OnlyMismatch P (v >>= f) := by
  cases v with
  | ok a => exact hf a
  | error e =>
    intro err h
    obtain rfl : e = err := Except.error.inj h
    exact hv e rfl

end

theorem incompatible_mismatch {α : Type} {name : String} {declared : FieldType} {l : Literal} :
    OnlyMismatch ByValue (incompatible name declared l : Except EvalError α) :=
  onlyMismatch_mismatch (.type declared name l.kind)

theorem unsupported_mismatch {α : Type} {op : Comparator} {name : String} {declared : FieldType}
    {against : String} : OnlyMismatch ByValue (unsupported op name declared against : Except EvalError α) :=
  onlyMismatch_mismatch (.operator op declared name against)

theorem wrongValue_mismatch {α : Type} {name : String} {declared : FieldType} {value : FieldValue} :
    OnlyMismatch ByValue (wrongValue name declared value : Except EvalError α) :=
  onlyMismatch_mismatch (.declared declared name value.typeName)

theorem applyOrdering_mismatch (op : Comparator) (name : String) (declared : FieldType)
    (order : Ordering) : OnlyMismatch ByValue (applyOrdering op name declared order) := by
  unfold applyOrdering
  split
  all_goals first | exact onlyMismatch_ok _ | exact unsupported_mismatch

theorem compareText_mismatch (op : Comparator) (name : String) (declared : FieldType) (text : String)
    (l : Literal) : OnlyMismatch ByValue (compareText op name declared text l) := by
  unfold compareText
  split
  · rename_i right
    split
    case h_5 => exact onlyMismatch_mismatch (.text name right)
    all_goals first | exact onlyMismatch_ok _ | exact unsupported_mismatch
  · exact incompatible_mismatch

theorem compareDate_mismatch (op : Comparator) (name : String) (value : FieldValue) (l : Literal) :
    OnlyMismatch ByValue (compareDate op name value l) := by
  refine .bind ?_ fun left => .bind ?_ fun right => applyOrdering_mismatch op name .date _
  · unfold dateOf
    split
    · exact onlyMismatch_ok _
    · split
      · exact onlyMismatch_ok _
      · exact onlyMismatch_mismatch (.dateValue name _)
    · exact wrongValue_mismatch
  · unfold literalDate
    split
    · exact onlyMismatch_ok _
    · split
      · exact onlyMismatch_ok _
      · exact onlyMismatch_mismatch (.date _)
    · exact incompatible_mismatch

theorem compareNumber_mismatch (op : Comparator) (name : String) (value : FieldValue) (l : Literal) :
    OnlyMismatch ByValue (compareNumber op name value l) := by
  refine .bind ?_ fun left => ?_
  · unfold numberOf
    split
    · exact onlyMismatch_ok _
    · split
      · exact onlyMismatch_ok _
      · exact onlyMismatch_mismatch (.numberValue name _)
    · exact wrongValue_mismatch
  · split
    · split
      · exact applyOrdering_mismatch op name .number _
      · split_ifs
        · exact onlyMismatch_ok _
        · exact onlyMismatch_ok _
        · exact unsupported_mismatch
    · exact incompatible_mismatch

theorem compareBoolean_mismatch (op : Comparator) (name : String) (value : FieldValue) (l : Literal) :
    OnlyMismatch ByValue (compareBoolean op name value l) := by
  unfold compareBoolean
  split
  · split
    · split
      all_goals first | exact onlyMismatch_ok _ | exact unsupported_mismatch
    · exact incompatible_mismatch
  · exact wrongValue_mismatch

theorem compareSet_mismatch (op : Comparator) (name : String) (declared : FieldType) (text : String)
    (values : List String) : OnlyMismatch ByValue (compareSet op name declared text values) := by
  unfold compareSet
  split
  all_goals first | exact onlyMismatch_ok _ | exact unsupported_mismatch

theorem comparePattern_mismatch (op : Comparator) (text : String) (p : Pattern) :
    OnlyMismatch Misformed (comparePattern op text p) := by
  unfold comparePattern
  refine OnlyMismatch.bind ?_ fun found => ?_
  · split
    all_goals first | exact onlyMismatch_ok _ | exact onlyMismatch_mismatch (.inr (.inl ⟨op, rfl⟩))
  · cases found with
    | none => exact onlyMismatch_mismatch (.inl ⟨p.source, rfl⟩)
    | some found => exact onlyMismatch_ok _

section

variable {P : String → Prop}

theorem OnlyMismatch.weaken {α : Type} {Q : String → Prop} {v : Except EvalError α} (hv : OnlyMismatch P v)
    (h : ∀ reason, P reason → Q reason) : OnlyMismatch Q v := fun err herr =>
  (hv err herr).imp fun reason => .imp_right (h reason)

theorem pattern_of_effectiveLiteral {field : ResolvedField} {l : Literal} {p : Pattern}
    (h : effectiveLiteral field l = .pattern p) : l = .pattern p := by
  unfold effectiveLiteral at h
  split at h
  · split_ifs at h
  · exact h

/-- Beside a field, only a pattern is reported for anything but the values. -/
theorem compareField_mismatch (hvalue : ∀ reason, ByValue reason → P reason) (op : Comparator) (name : String)
    (field : ResolvedField) (l : Literal)
    (hpattern : ∀ p, l = .pattern p → OnlyMismatch P (comparePattern op field.value.render p)) :
    OnlyMismatch P (compareField op name field l) := by
  unfold compareField
  dsimp only
  split
  · rename_i p hp
    exact hpattern p (pattern_of_effectiveLiteral hp)
  · exact (compareSet_mismatch op name _ _ _).weaken hvalue
  · split
    · exact (compareDate_mismatch op name _ _).weaken hvalue
    · exact (compareNumber_mismatch op name _ _).weaken hvalue
    · exact (compareBoolean_mismatch op name _ _).weaken hvalue
    all_goals exact (compareText_mismatch op name _ _ _).weaken hvalue

end

/-- **Every error of a comparison is a mismatch.** -/
theorem compare_mismatch (op : Comparator) (left right : Side) (err : EvalError)
    (h : compare op left right = .error err) : ∃ reason, err = .typeMismatch reason := by
  have hfield : ∀ op name field l, OnlyMismatch (fun _ => True) (compareField op name field l) :=
    fun op name field l => compareField_mismatch (fun _ _ => trivial) op name field l fun p _ =>
      (comparePattern_mismatch op _ p).weaken fun _ _ => trivial
  have hall : OnlyMismatch (fun _ => True) (compare op left right) := by
    cases left <;> cases right
    · exact hfield op _ _ _
    · exact hfield op _ _ _
    · exact hfield op.mirrored _ _ _
    · exact onlyMismatch_mismatch trivial
  obtain ⟨reason, herr, -⟩ := hall err h
  exact ⟨reason, herr⟩

end LogQuery.Filter
