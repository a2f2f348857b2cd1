import LogQuery.Proofs.Filter.Composition
import LogQuery.Proofs.Filter.RoundTrip
import LogQuery.Proofs.Filter.Single
import LogQuery.Proofs.Filter.Spelling
import LogQuery.Proofs.Filter.WellFormed

/-!
# Proofs.Filter.Faithful — the filters that keep their meaning in the canonical text

A filter keeps its meaning if its canonical text is read as a filter with the same verdict and the same
errors on every record. Three constants are lost in the canonical text. A pattern that a saved filter is
matched with is written as a text, and only a field turns a text into a pattern again. A negative zero is
written without its sign, which messages quote. A date outside the years `0` to `9999` is written with a
sign and is not read. Searching a saved filter for a pattern is safe, as the pattern stays between slashes.

* `reread_eq_self`: without negative zeros a regular tree is read as itself, not only up to agreement.
* `Lost`: a constant that the canonical text loses beside a field or a saved filter.
* `evaluate_beside`: the errors of one comparison on a record whose fields are all empty.
* `keepsMeaning_of_faithful`, `not_keepsMeaning`: filters of `Faithful` comparisons keep their meaning, and
  each other comparison that is read is a filter that does not.
* `pattern_beside_rule`: so a pattern beside a saved filter keeps its meaning exactly under `==` and `!=`.
-/

namespace LogQuery.Filter

/-! ## Trees that are read as themselves -/

mutual

/-- A regular tree without negative zeros is the tree that its canonical text is read as. -/
theorem reread_eq_self : ∀ n : Node, n.Regular → (∀ c, .comparison c ∈ n.leaves → c.plainZero = c) →
    n.reread = n
  | .expression op negated first [], h, hplain => by
    obtain ⟨hfirst, -, hone⟩ := h
    obtain ⟨rfl, rfl, hnot⟩ := hone rfl
    have hself := reread_eq_self first hfirst fun c hc => hplain c (List.mem_append_left _ hc)
    simp only [Node.reread, rereadAll, joined, if_true, hself, not_eq_of_not_isPlain hnot]
  | .expression op negated first (node :: nodes), h, hplain => by
    obtain ⟨hfirst, hrest, -⟩ := h
    have hself := reread_eq_self first hfirst fun c hc => hplain c (List.mem_append_left _ hc)
    have hnodes := rereadAll_eq_self (node :: nodes) hrest fun c hc => hplain c (List.mem_append_right _ hc)
    rw [Node.reread, hself, hnodes]
    cases negated <;> rfl
  | .comparison c, _, hplain => congrArg Node.comparison (hplain c List.mem_cons_self)
  | .search _, _, _ => rfl
  | .alias _, _, _ => rfl

theorem rereadAll_eq_self : ∀ nodes : List Node, RegularAll nodes →
    (∀ c, .comparison c ∈ leavesAll nodes → c.plainZero = c) → rereadAll nodes = nodes
  | [], _, _ => rfl
  | node :: nodes, h, hplain => by
    rw [rereadAll, reread_eq_self node h.1 fun c hc => hplain c (List.mem_append_left _ hc),
      rereadAll_eq_self nodes h.2 fun c hc => hplain c (List.mem_append_right _ hc)]

end

theorem asExpression_reread {n : Node} (h : n.reread = n) :
    n.asExpression.reread.asExpression = n.asExpression := by
  have hgroup : ∀ m : Node, (Node.expression .and false m []).reread = m.reread := by
    intro m
    simp only [Node.reread, rereadAll, joined, Bool.false_eq_true, if_false]
  cases n with
  | expression => rw [Node.asExpression, h, Node.asExpression]
  | _ =>
    show (Node.expression .and false _ []).reread.asExpression = _
    rw [hgroup, h]

/-! ## Keeping the meaning -/

/-- The comparison can be written and read again as itself. -/
structure Comparison.Faithful (c : Comparison) : Prop where
  writable : c.Writable
  signed : c.hasNegativeZero = false

/-- With every limit on levels that is large enough, the canonical text of a filter is read as a filter that
has the same verdict and the same errors on every record. The saved filters are those of the registry. -/
def KeepsMeaning (catalog : Catalog) (registry : Registry) (n : Node) : Prop :=
  ∃ D, ∀ d, D ≤ d → ∃ n', (Reader.mk catalog (some registry) d).read n.canonical = .ok n' ∧
    ∀ {ρ : Type} (e : Evaluator ρ) (record : ρ), e.registry = registry →
      (e.evaluate n' record).1 = (e.evaluate n record).1 ∧
        (e.evaluate n' record).2.errors = (e.evaluate n record).2.errors

/-- A filter of faithful comparisons is read as itself. -/
theorem keepsMeaning_of_faithful {catalog : Catalog} {registry : Registry} {d : ℕ} {text : String} {t : Node}
    (h : (Reader.mk catalog (some registry) d).read text = .ok t)
    (hfaithful : ∀ c, .comparison c ∈ t.leaves → c.Faithful) : KeepsMeaning catalog registry t := by
  obtain ⟨n, rfl, hleaves, hregular, -⟩ := read_sound h
  rw [leaves_asExpression] at hfaithful
  have hself : n.asExpression.reread.asExpression = n.asExpression :=
    asExpression_reread (reread_eq_self n hregular fun c hc => c.plainZero_eq_self (hfaithful c hc).signed)
  refine ⟨n.asExpression.rootNeed, fun d' hd => ⟨n.asExpression, ?_, fun e record _ => ⟨rfl, rfl⟩⟩⟩
  have hread := read_canonical (r := ⟨catalog, some registry, d'⟩) (n := n.asExpression) ?_
    (hd.trans (le_max_left d' 1))
  · rwa [hself] at hread
  · rw [leaves_asExpression]
    intro leaf hl
    refine hleaves leaf hl ?_
    cases leaf with
    | comparison c => exact (hfaithful c hl).writable
    | _ => trivial

/-! ## Constants beside a field or a saved filter -/

/-- The comparison sets a constant against a side; `op` is the operator as it is read from that side. -/
def Comparison.Beside (c : Comparison) (o : Operand) (op : Comparator) (l : Literal) : Prop :=
  c = ⟨o, op, .literal l⟩ ∨ c = ⟨.literal l, op.mirrored, o⟩

theorem Comparison.Beside.exists_against {c : Comparison} {o : Operand} {op : Comparator} {l : Literal}
    (h : c.Beside o op l) : ∃ swapped, c = o.against op l swapped := by
  rcases h with rfl | rfl
  · exact ⟨false, rfl⟩
  · exact ⟨true, rfl⟩

theorem beside_against (o : Operand) (op : Comparator) (l : Literal) (swapped : Bool) :
    (o.against op l swapped).Beside o op l := by
  cases swapped with
  | false => exact .inl rfl
  | true => exact .inr rfl

/-- The constant is not found again in the canonical text. -/
inductive Lost : Operand → Comparator → Literal → Prop where
  | pattern (name : String) {p : Pattern} (hp : p.isValid = true) : Lost (.rule name) .matches (.pattern p)
  | zero {o : Operand} (ho : ∀ l, o ≠ .literal l) (op : Comparator) :
      Lost o op (.number (.finite true .zero))
  | year {f : FieldRef} {op : Comparator} {d : Instant} (hf : f.type = .date) (hop : op ≠ .matches)
      (hd : ¬ (0 ≤ d.date.year ∧ d.date.year ≤ 9999)) : Lost (.field f) op (.date d)

theorem Lost.not_literal {o : Operand} {op : Comparator} {l : Literal} (h : Lost o op l) :
    ∀ l', o ≠ .literal l' := by
  cases h with
  | zero ho => exact ho
  | _ => exact fun l' => Operand.noConfusion

section

variable {r : Reader} {op : Comparator} {l l' : Literal}

/-- The constant is found again in the canonical text. -/
structure Recovered (o : Operand) (op : Comparator) (l : Literal) : Prop where
  year : (Operand.literal l).ShortYear
  sign : (Operand.literal l).isNegativeZero = false
  pattern : o.isRule = true → op = .matches → (Operand.literal l).isPattern = false

/-- A comparison of a constant is faithful if the constant is found again. -/
theorem Comparison.Beside.faithful_iff {c : Comparison} {o : Operand} (h : c.Beside o op l)
    (ho : ∀ l, o ≠ .literal l) : c.Faithful ↔ Recovered o op l := by
  have hside : o.ShortYear ∧ o.isNegativeZero = false ∧ o.isPattern = false := by
    cases o with
    | literal l => exact absurd rfl (ho l)
    | _ => exact ⟨trivial, rfl, rfl⟩
  obtain ⟨hyear, hsign, hpattern⟩ := hside
  have hmatches : c.matchesRule = false ↔
      (o.isRule = true → op = .matches → (Operand.literal l).isPattern = false) := by
    have hpair : c.matchesRule = (op == .matches && (o.isRule && (Operand.literal l).isPattern)) := by
      rcases h with rfl | rfl
      · simp only [Comparison.matchesRule, hpattern, Bool.false_and, Bool.or_false]
      · simp only [Comparison.matchesRule, hpattern, Bool.and_false, Bool.false_or, Bool.and_comm o.isRule]
        cases op <;> rfl
    rw [hpair]
    cases o.isRule <;> simp
  rcases h with rfl | rfl
  · exact ⟨fun h => ⟨h.writable.right, (Bool.or_eq_false_iff.mp h.signed).2, hmatches.mp h.writable.matchesRule⟩,
      fun h => ⟨⟨hyear, h.year, hmatches.mpr h.pattern⟩, Bool.or_eq_false_iff.mpr ⟨hsign, h.sign⟩⟩⟩
  · exact ⟨fun h => ⟨h.writable.left, (Bool.or_eq_false_iff.mp h.signed).1, hmatches.mp h.writable.matchesRule⟩,
      fun h => ⟨⟨h.year, hyear, hmatches.mpr h.pattern⟩, Bool.or_eq_false_iff.mpr ⟨h.sign, hsign⟩⟩⟩

/-- A number that is not recovered is the negative zero. -/
theorem lost_number {o : Operand} (ho : ∀ l, o ≠ .literal l) {n : Number} (h : ¬ Recovered o op (.number n)) :
    Lost o op (.number n) := by
  have hsign : (Operand.literal (.number n)).isNegativeZero = true := by
    by_contra hsign
    exact h ⟨trivial, Bool.eq_false_iff.mpr hsign, fun _ _ => rfl⟩
  obtain ⟨m, hm, heq⟩ := Operand.eq_of_isNegativeZero hsign
  obtain rfl := Literal.number.inj (Operand.literal.inj heq)
  rw [Number.magnitude_eq_zero hm]
  exact .zero ho op

/-- Beside a field a constant is recovered or lost. -/
theorem Typed.lost {f : FieldRef} (h : Typed f op l l') (hl : r.Reads (.literal l))
    (hbroken : ¬ Recovered (.field f) op l') : Lost (.field f) op l' := by
  have hpattern : (Operand.field f).isRule = true → op = .matches → (Operand.literal l').isPattern = false :=
    fun hrule => nomatch hrule
  cases l' with
  | date d =>
    cases h with
    | date hop hf => exact .year hf hop fun hyear => hbroken ⟨hyear, rfl, hpattern⟩
    | plain => exact absurd rfl (hl.untyped d)
  | number n => exact lost_number (fun l => Operand.noConfusion) hbroken
  | _ => exact absurd ⟨trivial, rfl, hpattern⟩ hbroken

/-- Beside a saved filter a constant is recovered or lost. -/
theorem Reader.Reads.lost (name : String) (hl : r.Reads (.literal l)) (hbroken : ¬ Recovered (.rule name) op l) :
    Lost (.rule name) op l := by
  cases l with
  | date d => exact absurd rfl (hl.untyped d)
  | number n => exact lost_number (fun l => Operand.noConfusion) hbroken
  | pattern p =>
    by_cases hop : op = .matches
    · rw [hop]
      exact .pattern name hl.named.1
    · exact absurd ⟨trivial, rfl, fun _ h => absurd h hop⟩ hbroken
  | _ => exact absurd ⟨trivial, rfl, fun _ _ => rfl⟩ hbroken

end

/-- **What is read and is not faithful loses a constant.** -/
theorem exists_lost {r : Reader} {c : Comparison} {ts : List Token} (h : Leaf r ts (.comparison c))
    (hproper : ∀ t ∈ ts, t.Proper) (hbroken : ¬ c.Faithful) : ∃ o op l, c.Beside o op l ∧ Lost o op l := by
  have hlost : ∀ {o : Operand} {op : Comparator} {l : Literal}, c.Beside o op l → (∀ l', o ≠ .literal l') →
      (¬ Recovered o op l → Lost o op l) → ∃ o op l, c.Beside o op l ∧ Lost o op l := by
    intro o op l hside ho hlost
    exact ⟨o, op, l, hside, hlost fun hrecovered => hbroken ((hside.faithful_iff ho).mpr hrecovered)⟩
  cases h with
  | boolean => exact absurd ⟨⟨trivial, trivial, rfl⟩, rfl⟩ hbroken
  | comparison h =>
    cases h with
    | @of _ _ a b left right op ha hb htyped =>
      rw [List.forall_mem_append, List.forall_mem_cons] at hproper
      have hleft := ha.reads hproper.1
      have hright := hb.reads hproper.2.2
      have hop := op.mirrored_mirrored
      cases htyped with
      | right h => exact hlost (.inl rfl) (fun l => Operand.noConfusion) (h.lost hright)
      | left h => exact hlost (.inr (by rw [hop])) (fun l => Operand.noConfusion) (h.lost hleft)
      | fields f g => exact absurd ⟨⟨trivial, trivial, by cases op <;> rfl⟩, rfl⟩ hbroken
      | ruleLeft name =>
        cases b with
        | literal l => exact hlost (.inl rfl) (fun l => Operand.noConfusion) (hright.lost name)
        | _ => exact absurd ⟨⟨trivial, trivial, by cases op <;> rfl⟩, rfl⟩ hbroken
      | ruleRight _ name =>
        cases a with
        | literal l => exact hlost (.inr (by rw [hop])) (fun l => Operand.noConfusion) (hleft.lost name)
        | _ => exact absurd ⟨⟨trivial, trivial, by cases op <;> rfl⟩, rfl⟩ hbroken

/-! ## The errors of one comparison -/

/-- The evaluator for records whose fields all hold the empty text, with the saved filters of a registry. -/
def emptyFields (registry : Registry) : Evaluator Unit where
  resolver := ⟨fun _ _ => some ⟨.text "", .text⟩, fun _ => ""⟩
  registry := registry

/-- A side as it is seen in a record of empty texts: a saved filter is a truth value. -/
def Operand.seen (verdict : Bool) (o : Operand) : ResolvedField :=
  if o.isRule then ⟨.boolean verdict, .boolean⟩ else ⟨.text "", .text⟩

theorem settled_compareOutcome (op : Comparator) (left right : Side) : Settled (compareOutcome op left right).2 := by
  unfold compareOutcome
  cases hcompare : compare op left right with
  | ok verdict => exact fun err h => absurd h List.not_mem_nil
  | error err =>
    obtain ⟨reason, rfl⟩ := compare_mismatch _ _ _ _ hcompare
    intro err h
    rw [List.mem_singleton.mp h]
    rfl

/-- The side is no constant, and a saved filter that it names is in the registry. -/
def Operand.Stands (registry : Registry) : Operand → Prop
  | .field _ => True
  | .rule name => registry.has name = true
  | .literal _ => False

theorem sideOutcome_emptyFields {registry : Registry} {o : Operand} (ho : o.Stands registry) (judge : Judge) :
    ∃ name verdict errs,
      sideOutcome (emptyFields registry) () judge [] o = (some (.field name (o.seen verdict)), errs) := by
  cases o with
  | literal => exact ho.elim
  | field f => exact ⟨f.name, false, [], rfl⟩
  | rule name =>
    obtain ⟨rule, hrule⟩ := Option.isSome_iff_exists.mp ho
    have hlookup : (emptyFields registry).registry.lookup name = some rule := hrule
    simp only [sideOutcome, followOutcome, hlookup, List.not_mem_nil, if_false]
    exact ⟨name, _, _, rfl⟩

/-- **The errors of one comparison** end in those of comparing the constant; what stands before them does not
depend on the constant. -/
theorem evaluate_beside {registry : Registry} {o : Operand} (ho : o.Stands registry) :
    ∃ name verdict before, ∀ {c : Comparison} {op : Comparator} {l : Literal}, c.Beside o op l →
      ((emptyFields registry).evaluate (single c) ()).2.errors =
        before ++ (compareOutcome op (.field name (o.seen verdict)) (.literal l)).2 := by
  obtain ⟨name, verdict, errs, hside⟩ := sideOutcome_emptyFields ho (outcome (emptyFields registry) () 62)
  refine ⟨name, verdict, limitOnce false errs, fun {c op l} hc => ?_⟩
  have hlimit : (emptyFields registry).limit = 62 + 2 := rfl
  have hliteral : sideOutcome (emptyFields registry) () (outcome (emptyFields registry) () 62) [] (.literal l) =
      (some (.literal l), []) := rfl
  have hswap : compareOutcome op.mirrored (.literal l) (.field name (o.seen verdict)) =
      compareOutcome op (.field name (o.seen verdict)) (.literal l) := by
    simp only [compareOutcome, compare, Comparator.mirrored_mirrored]
  have houtcome : (outcome (emptyFields registry) () (emptyFields registry).limit [] (single c)).2 =
      errs ++ (compareOutcome op (.field name (o.seen verdict)) (.literal l)).2 := by
    rw [hlimit, outcome_single]
    rcases hc with rfl | rfl
    · simp only [comparisonOutcome, hside, hliteral, List.append_nil]
    · simp only [comparisonOutcome, hside, hliteral, hswap, List.nil_append]
  rw [evaluate_eq_outcome, houtcome, addErrors_errors]
  show [] ++ limitOnce false _ = _
  rw [List.nil_append, limitOnce_append, limitOnce_of_settled _ (settled_compareOutcome _ _ _)]

/-- Texts and truth values are not compared with numbers; the message ends in the number. -/
theorem compareOutcome_number {o : Operand} (ho : ∀ l, o ≠ .literal l) (op : Comparator) (name : String)
    (verdict : Bool) : ∃ before, ∀ n, (compareOutcome op (.field name (o.seen verdict)) (.literal (.number n))).2 =
      [.typeMismatch (before ++ (Literal.number n).kind)] := by
  cases o with
  | literal l => exact absurd rfl (ho l)
  | field => exact ⟨"cannot compare text field '" ++ name ++ "' with ", fun n => rfl⟩
  | rule => exact ⟨"cannot compare boolean field '" ++ name ++ "' with ", fun n => rfl⟩

/-- A constant that is lost and what it is typed as again are told apart by the errors. -/
theorem Lost.compareOutcome_ne {o : Operand} {op : Comparator} {l l' : Literal} (h : Lost o op l)
    (hl' : Retyped o op (l.untyped op) l') (name : String) (verdict : Bool) :
    (compareOutcome op (.field name (o.seen verdict)) (.literal l')).2 ≠
      (compareOutcome op (.field name (o.seen verdict)) (.literal l)).2 := by
  cases h with
  | @pattern rule p hp =>
    obtain rfl : l' = .text p.source := hl'
    obtain ⟨found, hfound⟩ := comparePattern_ok hp (.inr (.inr rfl)) (booleanText verdict)
    have hmatched : compare .matches (.field name ((Operand.rule rule).seen verdict)) (.literal (.pattern p)) =
        .ok found := hfound
    simp only [compareOutcome, hmatched]
    exact List.cons_ne_nil _ _
  | zero ho =>
    have hplain : l' = .number (Number.plainZero (.finite true .zero)) := by
      cases o with
      | literal l => exact absurd rfl (ho l)
      | field f =>
        cases hl' with
        | plain => rfl
      | rule name => exact hl'
    obtain ⟨before, hquotes⟩ := compareOutcome_number ho op name verdict
    rw [hplain, hquotes, hquotes]
    intro heq
    have htext := EvalError.typeMismatch.inj (List.cons.inj heq).1
    exact plain_ne_plainZero rfl ((String.append_right_inj before).mp htext).symm
  | year hf hop hd =>
    cases hl' with
    | pattern hmatches => exact absurd hmatches hop
    | date _ _ hread =>
      rw [Instant.ofText?_canonical_of_signed hd] at hread
      exact absurd hread.symm (Option.some_ne_none _)
    | plain hplain => exact absurd hf (hplain _ rfl).2

/-! ## Comparisons that do not keep their meaning -/

section

variable {catalog : Catalog} {registry : Registry} {c : Comparison}

/-- A comparison that is part of a filter that is read is derived from proper tokens. -/
theorem Produced.leaf {registry : Option Registry} (h : Produced catalog registry c) :
    ∃ d ts, (∀ t ∈ ts, t.Proper) ∧ Leaf (Reader.mk catalog registry d) ts (.comparison c) := by
  obtain ⟨d, text, t, hread, hc⟩ := h
  obtain ⟨n, rfl, hshaped, -⟩ := read_shaped hread
  rw [leaves_asExpression] at hc
  obtain ⟨ts, hproper, hleaf⟩ := hshaped.leaves _ hc
  exact ⟨d, ts, hproper, hleaf⟩

theorem Reader.Names.stands {d : ℕ} (h : (Reader.mk catalog (some registry) d).Names (.comparison c))
    {o : Operand} {op : Comparator} {l : Literal} (hc : c.Beside o op l) (ho : ∀ l, o ≠ .literal l) :
    o.Stands registry := by
  obtain ⟨hleft, hright⟩ := h
  cases o with
  | literal l => exact absurd rfl (ho l)
  | field f => trivial
  | rule name =>
    rcases hc with rfl | rfl
    · exact hleft.2.2
    · exact hright.2.2

/-- **A filter of one comparison that is not faithful does not keep its meaning.** -/
theorem not_keepsMeaning (hc : Produced catalog (some registry) c) (hbroken : ¬ c.Faithful) :
    ¬ KeepsMeaning catalog registry (single c) := by
  obtain ⟨d₀, ts, hproper, hleaf⟩ := hc.leaf
  rintro ⟨D, hD⟩
  obtain ⟨n', hread, hmeans⟩ := hD D (Nat.le_refl D)
  -- names do not depend on the limit on levels
  have hnames : (Reader.mk catalog (some registry) D).Names (.comparison c) := hleaf.names hproper
  obtain ⟨o, op, l, hbeside, hlost⟩ := exists_lost hleaf hproper hbroken
  obtain ⟨name, verdict, before, herrors⟩ := evaluate_beside (hnames.stands hbeside hlost.not_literal)
  obtain ⟨swapped, rfl⟩ := hbeside.exists_against
  obtain ⟨l', hretyped, -, rfl⟩ := (read_against_iff hlost.not_literal swapped hnames).mp hread
  have hsame := (hmeans (emptyFields registry) () rfl).2
  rw [herrors (beside_against o op l' swapped), herrors hbeside] at hsame
  exact hlost.compareOutcome_ne hretyped name verdict (List.append_cancel_left hsame)

/-- What is part of a filter that is read is also a filter that is read. -/
theorem exists_read_single {registry : Option Registry} (hc : Produced catalog registry c) :
    ∃ d text, (Reader.mk catalog registry d).read text = .ok (single c) := by
  obtain ⟨d, ts, hproper, hleaf⟩ := hc.leaf
  obtain ⟨text, hread⟩ := read_leaf hproper hleaf
  exact ⟨d, text, hread⟩

end

/-! ## Saved filters and patterns -/

/-- Searching a saved filter for a pattern is safe, and matching it with one is not. -/
theorem faithful_beside_rule {catalog : Catalog} {registry : Option Registry} {c : Comparison}
    (hc : Produced catalog registry c) {name : String} {op : Comparator} {p : Pattern}
    (hbeside : c.Beside (.rule name) op (.pattern p)) :
    (op = .equal ∨ op = .notEqual) ∧ c.Faithful ∨ op = .matches ∧ ¬ c.Faithful := by
  obtain ⟨d, ts, -, hleaf⟩ := hc.leaf
  have hfaithful := hbeside.faithful_iff fun l => Operand.noConfusion
  have hop : op = .equal ∨ op = .notEqual ∨ op = .matches := by
    rcases hbeside with rfl | rfl
    · exact (hleaf.wellTyped.pattern p (.inr rfl)).2
    · have hallowed := (hleaf.wellTyped.pattern p (.inl rfl)).2
      cases op <;> simp_all [Comparator.mirrored]
  by_cases hm : op = .matches
  · exact .inr ⟨hm, fun h => Bool.noConfusion ((hfaithful.mp h).pattern rfl hm)⟩
  · exact .inl ⟨(or_assoc.mpr hop).resolve_right hm, hfaithful.mpr ⟨trivial, rfl, fun _ h => absurd h hm⟩⟩

/-- **A pattern beside a saved filter keeps its meaning exactly under `==` and `!=`.** Every text whose
comparisons are all faithful is read as a filter that keeps its meaning. Of each other comparison, read in
any text, there is a text of its own that is read and does not keep its meaning. A comparison of a saved
filter with a pattern is faithful under `==` and `!=`, on either side, and it never is under `MATCHES`. -/
theorem pattern_beside_rule (catalog : Catalog) (registry : Registry) :
    (∀ d text t, (Reader.mk catalog (some registry) d).read text = .ok t →
      (∀ c, .comparison c ∈ t.leaves → c.Faithful) → KeepsMeaning catalog registry t) ∧
    (∀ c, Produced catalog (some registry) c →
      (∃ d text, (Reader.mk catalog (some registry) d).read text = .ok (single c)) ∧
        (KeepsMeaning catalog registry (single c) ↔ c.Faithful)) ∧
    ∀ c name op p, Produced catalog (some registry) c → c.Beside (.rule name) op (.pattern p) →
      (op = .equal ∨ op = .notEqual) ∧ c.Faithful ∨ op = .matches ∧ ¬ c.Faithful := by
  refine ⟨fun d text t => keepsMeaning_of_faithful, fun c hc => ?_, fun c name op p hc h => ?_⟩
  · obtain ⟨d, text, hread⟩ := exists_read_single hc
    refine ⟨⟨d, text, hread⟩, fun h => by_contra fun hbroken => not_keepsMeaning hc hbroken h, fun h => ?_⟩
    refine keepsMeaning_of_faithful hread fun c' hc' => ?_
    obtain rfl := Node.comparison.inj (List.mem_singleton.mp (leaves_single c ▸ hc'))
    exact h
  · exact faithful_beside_rule hc h

/-- One saved filter, which searches for a word. -/
def errorsRegistry : Registry := ⟨[("errors", .named "errors" (.search "boom"))]⟩

/-- The saved filter compared with the pattern for a true verdict. -/
def equalsTrue : Comparison := ⟨.rule "errors", .equal, .literal (.pattern (.ofSource "true"))⟩

/-- The saved filter matched with the pattern for a true verdict, and what it is read as again. -/
def matchesTrue : Comparison := ⟨.rule "errors", .matches, .literal (.pattern (.ofSource "true"))⟩

@[inherit_doc matchesTrue] def matchesTrueText : Comparison := ⟨.rule "errors", .matches, .literal (.text "true")⟩

/-- `errors == /true/` keeps its meaning, and `errors MATCHES /true/` does not. -/
theorem pattern_beside_rule_errors :
    let r := Reader.mk (fun _ => none) (some errorsRegistry) 64
    r.read "errors == /true/" = .ok (single equalsTrue) ∧ r.read "errors MATCHES /true/" = .ok (single matchesTrue) ∧
      equalsTrue.Faithful ∧ KeepsMeaning (fun _ => none) errorsRegistry (single equalsTrue) ∧
      ¬ matchesTrue.Faithful ∧ ¬ KeepsMeaning (fun _ => none) errorsRegistry (single matchesTrue) := by
  intro r
  obtain ⟨hkeeps, hexact, hbeside⟩ := pattern_beside_rule (fun _ => none) errorsRegistry
  have hequals : r.read "errors == /true/" = .ok (single equalsTrue) := by cbv
  have hmatches : r.read "errors MATCHES /true/" = .ok (single matchesTrue) := by cbv
  have hproduced : Produced (fun _ => none) (some errorsRegistry) equalsTrue :=
    ⟨64, _, _, hequals, List.mem_cons_self⟩
  have hproduced' : Produced (fun _ => none) (some errorsRegistry) matchesTrue :=
    ⟨64, _, _, hmatches, List.mem_cons_self⟩
  have hfaithful : equalsTrue.Faithful := by
    rcases hbeside equalsTrue "errors" .equal _ hproduced (.inl rfl) with h | h
    · exact h.2
    · exact Comparator.noConfusion h.1
  have hbroken : ¬ matchesTrue.Faithful := by
    rcases hbeside matchesTrue "errors" .matches _ hproduced' (.inl rfl) with h | h
    · exact absurd h.1 (by decide)
    · exact h.2
  have hleaves : ∀ c, .comparison c ∈ (single equalsTrue).leaves → c.Faithful := by
    intro c hc
    obtain rfl := Node.comparison.inj (List.mem_singleton.mp (leaves_single equalsTrue ▸ hc))
    exact hfaithful
  exact ⟨hequals, hmatches, hfaithful, hkeeps 64 _ _ hequals hleaves, hbroken,
    mt (hexact matchesTrue hproduced').2.mp hbroken⟩

/-- The evaluator for records that are texts without fields. -/
def textEvaluator (registry : Registry) : Evaluator String where
  resolver := ⟨fun _ _ => none, id⟩
  registry := registry

/-- The canonical text of `errors MATCHES /true/` is refused on a record on which the filter is true. -/
theorem matches_rule_loses_pattern :
    let r := Reader.mk (fun _ => none) (some errorsRegistry) 64
    let e := textEvaluator errorsRegistry
    r.read "errors MATCHES /true/" = .ok (single matchesTrue) ∧
      (single matchesTrue).canonical = "errors MATCHES \"true\"" ∧
      r.read "errors MATCHES \"true\"" = .ok (single matchesTrueText) ∧
      (e.evaluate (single matchesTrue) "boom").1 = true ∧ (e.evaluate (single matchesTrue) "boom").2.errors = [] ∧
      (e.evaluate (single matchesTrueText) "boom").1 = false ∧
      (e.evaluate (single matchesTrueText) "boom").2.errors =
        [.typeMismatch "cannot compare boolean field 'errors' with text \"true\""] ∧
      ¬ KeepsMeaning (fun _ => none) errorsRegistry (single matchesTrue) := by
  intro r e
  have hread : r.read "errors MATCHES /true/" = .ok (single matchesTrue) := by cbv
  have hread' : r.read "errors MATCHES \"true\"" = .ok (single matchesTrueText) := by cbv
  have hproduced : Produced (fun _ => none) (some errorsRegistry) matchesTrue :=
    ⟨64, _, _, hread, List.mem_cons_self⟩
  refine ⟨hread, by cbv, hread', by cbv, by cbv, by cbv, by cbv, not_keepsMeaning hproduced ?_⟩
  exact fun h => Bool.noConfusion h.writable.matchesRule

end LogQuery.Filter
