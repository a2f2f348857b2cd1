import LogQuery.Proofs.Filter.Image
import LogQuery.Proofs.Filter.Outcome

/-!
# Proofs.Filter.Equivalence — a filter and its canonical text mean the same

Reading the canonical text of a filter drops groups around a lone part and joins a negation to the
group below it. Neither changes the verdict or the errors, however the filter was built. Zeros lose
their sign, and that does show: the message about a constant of the wrong type quotes the constant.

* `Same`: equal verdicts, and errors that are related one by one.
* `comparison_same`: a comparison without the signs of zeros, with errors that are `Restated`.
* `reread_same`: the tree that is read gives the same outcome as the tree that was written.
* `meansSame_iff`: over a class of comparisons that are read, all filters keep verdicts and errors,
  up to the sign of zeros in messages; they keep the errors exactly iff no constant is a negative zero.
-/

namespace LogQuery.Filter

variable {ρ : Type} (e : Evaluator ρ) (record : ρ)

/-! ## Outcomes that agree -/

/-- Two outcomes have the same verdict, and errors that are related one by one. -/
structure Same (R : EvalError → EvalError → Prop) (o o' : Outcome) : Prop where
  verdict : o'.1 = o.1
  errors : List.Forall₂ R o.2 o'.2

/-- Every error is related to itself, and the limit on levels to nothing else. -/
structure Tolerance (R : EvalError → EvalError → Prop) : Prop where
  refl : ∀ err, R err err
  depth : ∀ {err err'}, R err err' → err'.isDepth = err.isDepth

theorem tolerance_eq : Tolerance Eq := ⟨fun _ => rfl, fun h => by rw [h]⟩

section

variable {R : EvalError → EvalError → Prop} (hR : Tolerance R)
include hR

theorem Tolerance.forall₂ (errs : List EvalError) : List.Forall₂ R errs errs :=
  List.forall₂_same.mpr fun err _ => hR.refl err

theorem Same.refl (o : Outcome) : Same R o o := ⟨rfl, hR.forall₂ o.2⟩

theorem Tolerance.settled {errs errs' : List EvalError} (h : List.Forall₂ R errs errs')
    (hs : Settled errs) : Settled errs' := by
  induction h with
  | nil => exact hs
  | @cons err err' errs errs' herr _ ih =>
    intro x hx
    rcases List.mem_cons.mp hx with rfl | hx
    · rw [hR.depth herr]
      exact hs err List.mem_cons_self
    · exact ih (fun y hy => hs y (List.mem_cons_of_mem err hy)) x hx

end

theorem Same.append {R : EvalError → EvalError → Prop} {errs errs' : List EvalError} {o o' : Outcome}
    (h : List.Forall₂ R errs errs') (ho : Same R o o') :
    Same R (o.1, errs ++ o.2) (o'.1, errs' ++ o'.2) := ⟨ho.verdict, List.rel_append h ho.errors⟩

/-! ## Zeros without a sign -/

theorem compare?_plainZero (n n' : Number) : n.compare? n'.plainZero = n.compare? n' := by
  cases n' with
  | nan => rfl
  | infinite negative => rfl
  | finite negative m =>
    cases n <;> simp [Number.compare?, Number.plainZero, Number.signedUnits_plainZero]

/-- The same error, or the same message with the sign of a zero at its end left out. -/
inductive Restated : EvalError → EvalError → Prop where
  | refl (err : EvalError) : Restated err err
  | zero (before : String) (n : Number) :
      Restated (.typeMismatch (before ++ (Literal.number n).kind))
        (.typeMismatch (before ++ (Literal.number n.plainZero).kind))

theorem tolerance_restated : Tolerance Restated :=
  ⟨.refl, fun h => by cases h <;> rfl⟩

/-- Two results of a comparison that differ at most in the sign of a zero that is quoted. -/
inductive Alike : Verdict → Verdict → Prop where
  | refl (v : Verdict) : Alike v v
  | error {err err' : EvalError} (h : Restated err err') : Alike (.error err) (.error err')

theorem alike_incompatible (name : String) (declared : FieldType) (n : Number) :
    Alike (incompatible name declared (.number n)) (incompatible name declared (.number n.plainZero)) :=
  .error (.zero _ n)

theorem compareNumber_alike (op : Comparator) (name : String) (value : FieldValue) (n : Number) :
    Alike (compareNumber op name value (.number n)) (compareNumber op name value (.number n.plainZero)) := by
  have heq : compareNumber op name value (.number n.plainZero) = compareNumber op name value (.number n) := by
    unfold compareNumber
    simp only [compare?_plainZero]
  rw [heq]
  exact .refl _

theorem compareDate_alike (op : Comparator) (name : String) (value : FieldValue) (n : Number) :
    Alike (compareDate op name value (.number n)) (compareDate op name value (.number n.plainZero)) := by
  unfold compareDate
  cases dateOf name value with
  | error err => exact .refl _
  | ok d => exact alike_incompatible name .date n

theorem compareBoolean_alike (op : Comparator) (name : String) (value : FieldValue) (n : Number) :
    Alike (compareBoolean op name value (.number n)) (compareBoolean op name value (.number n.plainZero)) := by
  cases value with
  | boolean b => exact alike_incompatible name .boolean n
  | _ => exact .refl _

theorem compareField_alike (op : Comparator) (name : String) (field : ResolvedField) (l : Literal) :
    Alike (compareField op name field l) (compareField op name field l.plainZero) := by
  cases l with
  | number n =>
    unfold compareField
    dsimp only [effectiveLiteral, Literal.plainZero]
    cases effectiveType field with
    | date => exact compareDate_alike op name field.value n
    | number => exact compareNumber_alike op name field.value n
    | boolean => exact compareBoolean_alike op name field.value n
    | text => exact alike_incompatible name .text n
    | textIgnoreCase => exact alike_incompatible name .textIgnoreCase n
    | dynamic => exact alike_incompatible name .dynamic n
  | _ => exact .refl _

/-- The side with the positive zero for the negative one. -/
def Side.plainZero : Side → Side
  | .literal l => .literal l.plainZero
  | s => s

theorem compare_alike (op : Comparator) (left right : Side) :
    Alike (compare op left right) (compare op left.plainZero right.plainZero) := by
  cases left <;> cases right
  · exact .refl _
  · exact compareField_alike op _ _ _
  · exact compareField_alike op.mirrored _ _ _
  · exact .refl _

theorem sideOutcome_plainZero (judge : Judge) (trail : List String) (o : Operand) :
    sideOutcome e record judge trail o.plainZero =
      ((sideOutcome e record judge trail o).1.map Side.plainZero, (sideOutcome e record judge trail o).2) := by
  cases o with
  | literal l => rfl
  | field f =>
    simp only [Operand.plainZero, sideOutcome]
    cases e.resolver.resolve record f.name <;> rfl
  | rule name =>
    simp only [Operand.plainZero, sideOutcome, Option.map_map]
    rfl

/-- A comparison and the comparison without the signs of zeros have the same outcome, up to `R`, whatever the
saved filters on its sides stand for. -/
def Comparison.Keeps (R : EvalError → EvalError → Prop) (c : Comparison) : Prop :=
  ∀ judge trail, Same R (comparisonOutcome e record judge trail c) (comparisonOutcome e record judge trail c.plainZero)

/-- A comparison without the signs of zeros has the same outcome. -/
theorem comparison_same (judge : Judge) (trail : List String) (cmp : Comparison) :
    Same Restated (comparisonOutcome e record judge trail cmp)
      (comparisonOutcome e record judge trail cmp.plainZero) := by
  have hrefl := tolerance_restated.forall₂
  unfold comparisonOutcome
  simp only [Comparison.plainZero, sideOutcome_plainZero]
  cases sideOutcome e record judge trail cmp.left with
  | mk left errs =>
    cases left with
    | none => exact ⟨rfl, hrefl errs⟩
    | some left =>
      cases sideOutcome e record judge trail cmp.right with
      | mk right errs' =>
        cases right with
        | none => exact ⟨rfl, hrefl (errs ++ errs')⟩
        | some right =>
          refine .append (hrefl (errs ++ errs')) ?_
          unfold compareOutcome
          have halike := compare_alike cmp.op left right
          generalize compare cmp.op left right = v at halike
          generalize compare cmp.op left.plainZero right.plainZero = v' at halike
          cases halike with
          | refl => exact .refl tolerance_restated _
          | error h => exact ⟨rfl, .cons h .nil⟩

/-! ## Groups and negations -/

theorem outcome_not {levels : ℕ} {trail : List String} {n : Node}
    (h : Settled (outcome e record levels trail n).2) :
    outcome e record (levels + 1) trail n.not =
      (!(outcome e record levels trail n).1, (outcome e record levels trail n).2) := by
  have hwrap : outcome e record (levels + 1) trail (.expression .and true n []) =
      (!(outcome e record levels trail n).1, (outcome e record levels trail n).2) := by
    rw [outcome_lone, Bool.bne_true]
  cases n with
  | expression op negated first rest =>
    cases negated with
    | true => exact hwrap
    | false =>
      rw [← outcome_succ e record levels trail _ h]
      simp only [Node.not, outcome, Bool.bne_true, Bool.bne_false]
  | _ => exact hwrap

theorem outcome_asExpression {levels : ℕ} {trail : List String} {n : Node}
    (h : Settled (outcome e record (levels + 1) trail n.asExpression).2) :
    outcome e record (levels + 1) trail n.asExpression = outcome e record (levels + 1) trail n := by
  have hwrap : outcome e record (levels + 1) trail (.expression .and false n []) =
      outcome e record levels trail n := by
    rw [outcome_lone, Bool.bne_false]
  cases n with
  | expression => rfl
  | _ =>
    simp only [Node.asExpression, hwrap] at h ⊢
    exact (outcome_succ e record levels trail _ h).symm

section

variable {R : EvalError → EvalError → Prop} (hR : Tolerance R)
include hR

mutual

/-- The tree that is read from the canonical text of a filter has the outcome of the filter. -/
theorem reread_same : ∀ (n : Node), (∀ c, .comparison c ∈ n.leaves → c.Keeps e record R) →
    ∀ levels trail, Settled (outcome e record levels trail n).2 →
      Same R (outcome e record levels trail n) (outcome e record levels trail n.reread)
  | .expression op negated first rest, hcmp, 0, trail, h => .refl hR _
  | .expression op negated first [], hcmp, levels + 1, trail, h => by
    rw [outcome_lone] at h ⊢
    have hfirst := reread_same first (fun c hc => hcmp c (List.mem_append_left _ hc)) levels trail h
    have hsettled := hR.settled hfirst.errors h
    cases negated with
    | false =>
      rw [Bool.bne_false]
      simp only [Node.reread, rereadAll, joined, Bool.false_eq_true, if_false]
      rw [outcome_succ e record levels trail _ hsettled]
      exact hfirst
    | true =>
      rw [Bool.bne_true]
      simp only [Node.reread, rereadAll, joined, if_true]
      rw [outcome_not e record hsettled]
      exact ⟨congrArg not hfirst.verdict, hfirst.errors⟩
  | .expression op negated first (node :: nodes), hcmp, levels + 1, trail, h => by
    have hbody : (Node.expression op negated first (node :: nodes)).reread =
        .expression op negated first.reread (rereadAll (node :: nodes)) := by
      cases negated <;> rfl
    rw [hbody]
    obtain ⟨hs, hs'⟩ := settled_append.mp h
    have hfirst := reread_same first (fun c hc => hcmp c (List.mem_append_left _ hc)) levels trail hs
    have hrest := rest_same op (node :: nodes) (fun c hc => hcmp c (List.mem_append_right _ hc)) levels
      trail (outcome e record levels trail first).1 hs'
    simp only [outcome, hfirst.verdict]
    exact ⟨congrArg (· != negated) hrest.verdict, List.rel_append hfirst.errors hrest.errors⟩
  | .comparison c, hcmp, 0, trail, h => .refl hR _
  | .comparison c, hcmp, levels + 1, trail, h => hcmp c List.mem_cons_self (outcome e record levels) trail
  | .search term, _, levels, trail, _ => .refl hR _
  | .alias name, _, levels, trail, _ => .refl hR _

theorem rest_same (op : Connective) : ∀ (nodes : List Node), (∀ c, .comparison c ∈ leavesAll nodes →
      c.Keeps e record R) →
    ∀ levels trail verdict, Settled (restOutcome (outcome e record levels trail) op verdict nodes).2 →
      Same R (restOutcome (outcome e record levels trail) op verdict nodes)
        (restOutcome (outcome e record levels trail) op verdict (rereadAll nodes))
  | [], _, levels, trail, verdict, _ => .refl hR _
  | node :: nodes, hcmp, levels, trail, verdict, h => by
    unfold restOutcome at h
    rw [rereadAll]
    unfold restOutcome
    split_ifs at h ⊢
    · exact .refl hR _
    · obtain ⟨hs, hs'⟩ := settled_append.mp h
      have hnode := reread_same node (fun c hc => hcmp c (List.mem_append_left _ hc)) levels trail hs
      have hnodes := rest_same op nodes (fun c hc => hcmp c (List.mem_append_right _ hc)) levels trail
        (outcome e record levels trail node).1 hs'
      simp only [hnode.verdict]
      exact ⟨hnodes.verdict, List.rel_append hnode.errors hnodes.errors⟩

end

/-- Neither run may meet the limit on levels: then the filter and the tree that is read from its
canonical text have the same verdict and related errors. -/
theorem evaluate_reread {n : Node} (hcmp : ∀ c, .comparison c ∈ n.leaves → c.Keeps e record R)
    (hs : Settled (e.evaluate n record).2.errors)
    (hs' : Settled (e.evaluate n.reread.asExpression record).2.errors) :
    (e.evaluate n.reread.asExpression record).1 = (e.evaluate n record).1 ∧
      List.Forall₂ R (e.evaluate n record).2.errors
        (e.evaluate n.reread.asExpression record).2.errors := by
  obtain ⟨hsettled, hverdict, herrors⟩ := evaluate_of_settled e record hs
  obtain ⟨hsettled', hverdict', herrors'⟩ := evaluate_of_settled e record hs'
  obtain ⟨k, hk⟩ : ∃ k, e.limit = k + 1 := by
    have hlimit : 1 ≤ e.limit := le_max_right _ _
    exact ⟨e.limit - 1, by omega⟩
  have hsame := reread_same e record hR n hcmp e.limit [] hsettled
  rw [hk] at hsettled' hsame hverdict hverdict' herrors herrors'
  rw [outcome_asExpression e record hsettled'] at hverdict' herrors'
  rw [hverdict, hverdict', herrors, herrors']
  exact ⟨hsame.verdict, hsame.errors⟩

end

/-! ## Filters that are built -/

/-- The comparison is part of a filter that is read from some text, with some limit on levels. -/
def Produced (catalog : Catalog) (registry : Option Registry) (c : Comparison) : Prop :=
  ∃ d text t, (Reader.mk catalog registry d).read text = .ok t ∧ .comparison c ∈ t.leaves

/-- The leaf of a filter that is built: one of the comparisons, any search, or a stored name. -/
def BuiltFrom (K : Comparison → Prop) : Node → Prop
  | .comparison c => K c
  | .search _ => True
  | .alias name => IsStored name
  | .expression .. => False

/-- The canonical text of a filter is read with every limit on levels that is large enough. On every
record the filter that is read gives the same verdict and related errors, one by one in order, unless
one of the two runs meets the limit on levels. -/
def MeansSame (catalog : Catalog) (registry : Option Registry) (R : EvalError → EvalError → Prop)
    (n : Node) : Prop :=
  ∃ D, ∀ d, D ≤ d → ∃ n', (Reader.mk catalog registry d).read n.canonical = .ok n' ∧
    ∀ {ρ : Type} (e : Evaluator ρ) (record : ρ), Settled (e.evaluate n record).2.errors →
      Settled (e.evaluate n' record).2.errors →
      (e.evaluate n' record).1 = (e.evaluate n record).1 ∧
        List.Forall₂ R (e.evaluate n record).2.errors (e.evaluate n' record).2.errors

section

variable {catalog : Catalog} {registry : Option Registry}

theorem restates_of_produced {c : Comparison} (h : Produced catalog registry c) (hw : c.Writable)
    (d : ℕ) : (Reader.mk catalog registry d).Restates (.comparison c) := by
  obtain ⟨d', text, t, hread, hc⟩ := h
  obtain ⟨n, rfl, hleaves, -⟩ := read_sound hread
  rw [leaves_asExpression] at hc
  exact hleaves _ hc hw

/-- What is built from comparisons that are read can be read. -/
theorem restates_of_built {K : Comparison → Prop}
    (hK : ∀ c, K c → Produced catalog registry c ∧ c.Writable) {leaf : Node} (h : BuiltFrom K leaf)
    (d : ℕ) : (Reader.mk catalog registry d).Restates leaf := by
  cases leaf with
  | expression => exact h.elim
  | comparison c => exact restates_of_produced (hK c h).1 (hK c h).2 d
  | search term => exact trivial
  | «alias» name => exact h

theorem read_built {K : Comparison → Prop} (hK : ∀ c, K c → Produced catalog registry c ∧ c.Writable)
    {n : Node} (hn : ∀ leaf ∈ n.leaves, BuiltFrom K leaf) {d : ℕ} (hd : n.rootNeed ≤ d) :
    (Reader.mk catalog registry d).read n.canonical = .ok n.reread.asExpression :=
  read_canonical (fun leaf hl => restates_of_built hK (hn leaf hl) d) (hd.trans (le_max_left d 1))

theorem meansSame_of_comparisons {K : Comparison → Prop}
    (hK : ∀ c, K c → Produced catalog registry c ∧ c.Writable) {R : EvalError → EvalError → Prop}
    (hR : Tolerance R) (hcmp : ∀ c, K c → ∀ {ρ : Type} (e : Evaluator ρ) (record : ρ), c.Keeps e record R)
    {n : Node} (hn : ∀ leaf ∈ n.leaves, BuiltFrom K leaf) : MeansSame catalog registry R n := by
  refine ⟨n.rootNeed, fun d hd => ⟨n.reread.asExpression, read_built hK hn hd, ?_⟩⟩
  intro ρ e record hs hs'
  exact evaluate_reread e record hR (fun c hc => hcmp c (hn _ hc) e record) hs hs'

end

/-! ## Negative zeros -/

/-- Whether the side is the negative zero. -/
def Operand.isNegativeZero : Operand → Bool
  | .literal (.number (.finite true m)) => m.isZero
  | _ => false

/-- Whether a side is the negative zero. -/
def Comparison.hasNegativeZero (c : Comparison) : Bool :=
  c.left.isNegativeZero || c.right.isNegativeZero

theorem Operand.plainZero_eq_self {o : Operand} (h : o.isNegativeZero = false) : o.plainZero = o := by
  match o, h with
  | .field f, _ => rfl
  | .rule name, _ => rfl
  | .literal (.number (.finite true m)), h =>
    have hm : m.isZero = false := h
    simp [plainZero, Literal.plainZero, Number.plainZero, hm]
  | .literal (.number (.finite false m)), _ => rfl
  | .literal (.number .nan), _ => rfl
  | .literal (.number (.infinite _)), _ => rfl
  | .literal (.text _), _ => rfl
  | .literal (.pattern _), _ => rfl
  | .literal (.date _), _ => rfl
  | .literal (.boolean _), _ => rfl
  | .literal (.set _), _ => rfl

theorem Comparison.plainZero_eq_self {c : Comparison} (h : c.hasNegativeZero = false) : c.plainZero = c := by
  obtain ⟨hl, hr⟩ := Bool.or_eq_false_iff.mp h
  rw [plainZero, Operand.plainZero_eq_self hl, Operand.plainZero_eq_self hr]

theorem plain_ne_plainZero {m : Magnitude} (hm : m.isZero = true) :
    (Literal.number (.finite true m)).kind ≠ (Literal.number (Number.plainZero (.finite true m))).kind := by
  have hplain : (Number.finite true m).plain = "-" ++ (Number.plainZero (.finite true m)).plain := by
    simp only [Number.plainZero, hm, Bool.not_true, Bool.and_false, Number.plain]
    rw [Number.finite_sign _ true m]
    rfl
  intro h
  have hlen := congrArg String.length h
  simp only [Literal.kind, hplain, String.length_append] at hlen
  have hone : "-".length = 1 := rfl
  omega

/-- An evaluator for which every field holds a text, and one name is that of a saved filter. -/
def quoting (name : String) : Evaluator Unit where
  resolver := ⟨fun _ _ => some ⟨.text "", .text⟩, fun _ => ""⟩
  registry := ⟨[(Text.lower name, Rule.named name (.search ""))]⟩

/-- The filter with one comparison. -/
def single (c : Comparison) : Node := .expression .and false (.comparison c) []

theorem leaves_single (c : Comparison) : (single c).leaves = [.comparison c] := rfl

theorem outcome_single (e : Evaluator ρ) (record : ρ) (levels : ℕ) (c : Comparison) :
    (outcome e record (levels + 2) [] (single c)).2 =
      (comparisonOutcome e record (outcome e record levels) [] c).2 := by
  simp only [single, outcome, restOutcome, List.append_nil]

theorem evaluate_single (e : Evaluator ρ) (record : ρ) {levels : ℕ} (hlimit : e.limit = levels + 2)
    {c : Comparison} {err : EvalError} (herr : err.isDepth = false)
    (h : (comparisonOutcome e record (outcome e record levels) [] c).2 = [err]) :
    (e.evaluate (single c) record).2.errors = [err] := by
  have houtcome : (outcome e record e.limit [] (single c)).2 = [err] := by
    rw [hlimit, outcome_single, h]
  rw [evaluate_eq_outcome, houtcome, Context.addErrors_singleton _ herr]
  rfl

theorem sideOutcome_quoting (name : String) (levels : ℕ) : ∃ verdict,
    sideOutcome (quoting name) () (outcome (quoting name) () (levels + 1)) [] (.rule name) =
      (some (.field name ⟨.boolean verdict, .boolean⟩), []) := by
  have hlookup : (quoting name).registry.lookup name = some (.named name (.search "")) := by
    simp [quoting, Registry.lookup, Keyed.get?, Keyed.find]
  refine ⟨(quoting name).searchText () "", ?_⟩
  simp only [sideOutcome, followOutcome, hlookup, List.not_mem_nil, if_false]
  rfl

/-- Beside a field or a saved filter some evaluation quotes the number. -/
theorem exists_quoting (o : Operand) (ho : ∀ l, o ≠ .literal l) (op : Comparator) :
    ∃ (e : Evaluator Unit) (before : String), ∀ (n : Number) (c : Comparison),
      c = ⟨o, op, .literal (.number n)⟩ ∨ c = ⟨.literal (.number n), op, o⟩ →
        (e.evaluate (single c) ()).2.errors = [.typeMismatch (before ++ (Literal.number n).kind)] := by
  cases o with
  | literal l => exact absurd rfl (ho l)
  | field f =>
    refine ⟨quoting f.name, "cannot compare text field '" ++ f.name ++ "' with ", ?_⟩
    rintro n c (rfl | rfl) <;> rfl
  | rule name =>
    have hlimit : (quoting name).limit = 62 + 2 := rfl
    obtain ⟨verdict, hside⟩ := sideOutcome_quoting name 61
    refine ⟨quoting name, "cannot compare boolean field '" ++ name ++ "' with ", ?_⟩
    intro n c hc
    refine evaluate_single _ _ hlimit rfl ?_
    unfold comparisonOutcome
    rcases hc with rfl | rfl
    · rw [hside]
      rfl
    · rw [hside]
      rfl

/-- Two constants are not compared. -/
theorem one_literal_of_restates {r : Reader} {c : Comparison} (h : r.Restates (.comparison c)) {l : Literal}
    (hl : c.left = .literal l) : ∀ l', c.right ≠ .literal l' := by
  intro l' hr
  obtain ⟨-, -, hcomparison⟩ := h
  have herror := hcomparison 0
  rw [hl, hr] at herror
  simp [comparisonOf, Operand.untyped, typeSides, bind, Except.bind] at herror

theorem Operand.isNegativeZero_eq_false {o : Operand} (h : ∀ l, o ≠ .literal l) : o.isNegativeZero = false := by
  cases o with
  | literal l => exact absurd rfl (h l)
  | _ => rfl

theorem Operand.eq_of_isNegativeZero {o : Operand} (h : o.isNegativeZero = true) :
    ∃ m : Magnitude, m.isZero = true ∧ o = .literal (.number (.finite true m)) := by
  cases o with
  | field f => exact absurd h Bool.false_ne_true
  | rule name => exact absurd h Bool.false_ne_true
  | literal l =>
    cases l with
    | number n =>
      cases n with
      | finite negative m =>
        cases negative with
        | true => exact ⟨m, h, rfl⟩
        | false => exact absurd h Bool.false_ne_true
      | _ => exact absurd h Bool.false_ne_true
    | _ => exact absurd h Bool.false_ne_true

/-- A negative zero stands beside a field or a saved filter. -/
theorem exists_beside {r : Reader} {c : Comparison} (hc : r.Restates (.comparison c))
    (h : c.hasNegativeZero = true) : ∃ (o : Operand) (m : Magnitude), (∀ l, o ≠ .literal l) ∧
      m.isZero = true ∧ (c = ⟨o, c.op, .literal (.number (.finite true m))⟩ ∨
        c = ⟨.literal (.number (.finite true m)), c.op, o⟩) := by
  obtain ⟨left, op, right⟩ := c
  have hone := fun l => one_literal_of_restates hc (l := l)
  rcases Bool.or_eq_true_iff.mp h with hleft | hright
  · obtain ⟨m, hm, rfl⟩ := Operand.eq_of_isNegativeZero hleft
    exact ⟨right, m, hone _ rfl, hm, .inr rfl⟩
  · obtain ⟨m, hm, rfl⟩ := Operand.eq_of_isNegativeZero hright
    exact ⟨left, m, fun l hl => hone l hl _ rfl, hm, .inl rfl⟩

/-- Some evaluation quotes the sign of a negative zero, and the canonical text has lost it. -/
theorem not_meansSame_of_hasNegativeZero {catalog : Catalog} {registry : Option Registry} {c : Comparison}
    (hc : Produced catalog registry c) (hw : c.Writable) (h : c.hasNegativeZero = true) :
    ¬ MeansSame catalog registry Eq (single c) := by
  rintro ⟨D, hD⟩
  obtain ⟨n', hread, hmeans⟩ := hD (max D (single c).rootNeed) (le_max_left _ _)
  have hbuilt : ∀ leaf ∈ (single c).leaves, BuiltFrom (· = c) leaf := by
    intro leaf hleaf
    obtain rfl := List.mem_singleton.mp (leaves_single c ▸ hleaf)
    rfl
  have hK : ∀ c', c' = c → Produced catalog registry c' ∧ c'.Writable := by
    rintro c' rfl
    exact ⟨hc, hw⟩
  rw [read_built hK hbuilt (le_max_right D _)] at hread
  obtain rfl : single c.plainZero = n' := Except.ok.inj hread
  obtain ⟨o, m, ho, hm, hside⟩ := exists_beside (restates_of_produced hc hw D) h
  obtain ⟨e, before, hquotes⟩ := exists_quoting o ho c.op
  have hplain : o.plainZero = o := Operand.plainZero_eq_self (Operand.isNegativeZero_eq_false ho)
  have herrors := hquotes (.finite true m) c hside
  have herrors' := hquotes (Number.plainZero (.finite true m)) c.plainZero (by
    rcases hside with hside | hside
    · rw [hside, Comparison.plainZero, hplain]
      exact .inl rfl
    · rw [hside, Comparison.plainZero, hplain]
      exact .inr rfl)
  have hsettled : ∀ text, Settled [EvalError.typeMismatch text] := fun text => List.forall_mem_singleton.mpr rfl
  have hsame := (hmeans e () (herrors ▸ hsettled _) (herrors' ▸ hsettled _)).2
  rw [herrors, herrors', List.forall₂_eq_eq_eq] at hsame
  have htext := EvalError.typeMismatch.inj (List.cons.inj hsame).1
  exact plain_ne_plainZero hm ((String.append_right_inj before).mp htext)

/-- A catalog with one field, which holds texts. -/
def messageCatalog : Catalog := fun name => if name = "message" then some .text else none

/-- A text beside the negative zero. -/
def equalsNegativeZero : Comparison :=
  ⟨.field ⟨"message", .text⟩, .equal, .literal (.number (.finite true .zero))⟩

/-- The message for `message == -0` quotes the sign, and the message for its canonical text does not. -/
theorem canonical_loses_sign :
    (Reader.mk messageCatalog none 64).read "message == -0" = .ok (single equalsNegativeZero) ∧
      (single equalsNegativeZero).canonical = "message == 0" ∧
      (Reader.mk messageCatalog none 64).read "message == 0" = .ok (single equalsNegativeZero.plainZero) ∧
      ((quoting "message").evaluate (single equalsNegativeZero) ()).2.errors =
        [.typeMismatch "cannot compare text field 'message' with number -0"] ∧
      ((quoting "message").evaluate (single equalsNegativeZero.plainZero) ()).2.errors =
        [.typeMismatch "cannot compare text field 'message' with number 0"] ∧
      ¬ MeansSame messageCatalog none Eq (single equalsNegativeZero) := by
  have hread : (Reader.mk messageCatalog none 64).read "message == -0" = .ok (single equalsNegativeZero) := by
    cbv
  have hread' : (Reader.mk messageCatalog none 64).read "message == 0" =
      .ok (single equalsNegativeZero.plainZero) := by cbv
  have hproduced : Produced messageCatalog none equalsNegativeZero :=
    ⟨64, _, _, hread, List.mem_cons_self⟩
  have hwritable : equalsNegativeZero.Writable := ⟨trivial, trivial, rfl⟩
  exact ⟨hread, by cbv, hread', by cbv, by cbv,
    not_meansSame_of_hasNegativeZero hproduced hwritable rfl⟩

/-- **Canonical texts keep the meaning.** Take any class of comparisons that are read with a catalog
and a registry, and all filters built from them. Read from its canonical text, each of them has the
same verdict on every record and the same errors, up to the sign of a zero that a message ends in. The
errors are always the same iff none of the comparisons has a negative zero. -/
theorem meansSame_iff {catalog : Catalog} {registry : Option Registry} {K : Comparison → Prop}
    (hK : ∀ c, K c → Produced catalog registry c ∧ c.Writable) :
    (∀ n : Node, (∀ leaf ∈ n.leaves, BuiltFrom K leaf) → MeansSame catalog registry Restated n) ∧
      ((∀ n : Node, (∀ leaf ∈ n.leaves, BuiltFrom K leaf) → MeansSame catalog registry Eq n) ↔
        ∀ c, K c → c.hasNegativeZero = false) := by
  refine ⟨fun n hn => ?_, fun h c hc => ?_, fun h n hn => ?_⟩
  · exact meansSame_of_comparisons hK tolerance_restated
      (fun c _ _ e record judge trail => comparison_same e record judge trail c) hn
  · refine Bool.eq_false_iff.mpr fun hzero => ?_
    refine not_meansSame_of_hasNegativeZero (hK c hc).1 (hK c hc).2 hzero (h (single c) ?_)
    intro leaf hleaf
    obtain rfl : leaf = .comparison c := by simpa [single, Node.leaves, leavesAll] using hleaf
    exact hc
  · refine meansSame_of_comparisons hK tolerance_eq (fun c hc _ e record judge trail => ?_) hn
    rw [Comparison.plainZero_eq_self (h c hc)]
    exact .refl tolerance_eq _

/-- A text that is matched with a pattern. -/
def likeTimeout : Comparison :=
  ⟨.field ⟨"message", .text⟩, .matches, .literal (.pattern (.ofSource "time.?out"))⟩

theorem meansSame_likeTimeout :
    (∀ c, c = likeTimeout → Produced messageCatalog none c ∧ c.Writable) ∧
      ∀ n : Node, (∀ leaf ∈ n.leaves, BuiltFrom (· = likeTimeout) leaf) →
        MeansSame messageCatalog none Eq n := by
  have hread : (Reader.mk messageCatalog none 64).read "message MATCHES \"time.?out\"" =
      .ok (single likeTimeout) := by cbv
  have hK : ∀ c, c = likeTimeout → Produced messageCatalog none c ∧ c.Writable := by
    rintro c rfl
    exact ⟨⟨64, _, _, hread, List.mem_cons_self⟩, ⟨trivial, trivial, rfl⟩⟩
  exact ⟨hK, (meansSame_iff hK).2.mpr fun c hc => by rw [hc]; rfl⟩

end LogQuery.Filter
