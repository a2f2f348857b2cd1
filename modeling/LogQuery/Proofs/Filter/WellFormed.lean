import LogQuery.Proofs.Filter.Image
import LogQuery.Proofs.Filter.Parts

/-!
# Proofs.Filter.WellFormed — the trees that are read are well formed

What the reader gives is in a normal form that a tree need not be in: no expression below the root is a
group that could be left out, and every comparison is typed by the catalog. So a comparison that fails
on a record fails for the values in it.

* `Comparison.WellTyped`: the comparison has a subject, and its constants fit the subject.
* `WellFormed`: the normal form; `wellFormed_of_read`: every tree that is read has it.
* `compare_byValue`: a typed comparison reports nothing but values that do not fit.
* `read_wellFormed`: both for a text that is read.
-/

namespace LogQuery.Filter

/-! ## Parts of regular trees -/

mutual

/-- The levels that a filter needs to be written are at least those of its tree. -/
theorem height_le_need : ∀ n : Node, n.height ≤ n.need
  | .expression op negated first rest => by
    have hfirst := height_le_need first
    have hrest := heightAll_le_needAll rest
    rw [Node.height, Node.need]
    split_ifs <;> omega
  | .comparison _ => Nat.le_refl 1
  | .search _ => Nat.le_refl 1
  | .alias _ => Nat.le_refl 1

theorem heightAll_le_needAll : ∀ nodes : List Node, heightAll nodes ≤ needAll nodes
  | [] => Nat.le_refl 0
  | node :: nodes => by
    have hnode := height_le_need node
    have hnodes := heightAll_le_needAll nodes
    rw [heightAll, needAll]
    omega

end

mutual

/-- Every part of a regular tree is regular. -/
theorem regular_of_mem_parts : ∀ n : Node, n.Regular → ∀ m ∈ n.parts, m.Regular
  | .expression op negated first rest, h, m, hm => by
    rcases List.mem_cons.mp hm with rfl | hm
    · exact h
    · rcases List.mem_append.mp hm with hm | hm
      exacts [regular_of_mem_parts first h.1 m hm, regular_of_mem_partsAll rest h.2.1 m hm]
  | .comparison _, _, m, hm => by
    rw [List.mem_singleton.mp hm]
    exact trivial
  | .search _, _, m, hm => by
    rw [List.mem_singleton.mp hm]
    exact trivial
  | .alias _, _, m, hm => by
    rw [List.mem_singleton.mp hm]
    exact trivial

theorem regular_of_mem_partsAll : ∀ nodes : List Node, RegularAll nodes → ∀ m ∈ partsAll nodes, m.Regular
  | [], _, m, hm => absurd hm List.not_mem_nil
  | node :: nodes, h, m, hm => by
    rcases List.mem_append.mp hm with hm | hm
    exacts [regular_of_mem_parts node h.1 m hm, regular_of_mem_partsAll nodes h.2 m hm]

end

mutual

/-- A comparison among the parts is a leaf. -/
theorem mem_leaves_of_mem_parts {c : Comparison} : ∀ n : Node, .comparison c ∈ n.parts → .comparison c ∈ n.leaves
  | .expression op negated first rest, h => by
    rcases List.mem_cons.mp h with h | h
    · exact Node.noConfusion h
    · rcases List.mem_append.mp h with h | h
      · exact List.mem_append_left _ (mem_leaves_of_mem_parts first h)
      · exact List.mem_append_right _ (mem_leavesAll_of_mem_partsAll rest h)
  | .comparison _, h => h
  | .search _, h => h
  | .alias _, h => h

theorem mem_leavesAll_of_mem_partsAll {c : Comparison} :
    ∀ nodes : List Node, .comparison c ∈ partsAll nodes → .comparison c ∈ leavesAll nodes
  | [], h => h
  | node :: nodes, h => by
    rcases List.mem_append.mp h with h | h
    · exact List.mem_append_left _ (mem_leaves_of_mem_parts node h)
    · exact List.mem_append_right _ (mem_leavesAll_of_mem_partsAll nodes h)

end

/-- Made an expression, a tree has no other parts below it than its own. -/
theorem mem_parts_of_mem_inner_asExpression {n m : Node} (h : m ∈ n.asExpression.innerParts) : m ∈ n.parts := by
  cases n with
  | expression => exact mem_parts_of_mem_inner h
  | _ => simpa [Node.asExpression, Node.innerParts, partsAll] using h

/-! ## Typed comparisons -/

/-- The comparison is typed by the catalog: a field or a saved filter stands on one side, fields have their
declared types, patterns have compiled and are searched for or matched with, and no text stands where a
pattern or a date is asked for. -/
structure Comparison.WellTyped (catalog : Catalog) (c : Comparison) : Prop where
  subject : c.left.subject? ≠ none ∨ c.right.subject? ≠ none
  field : ∀ f, c.left = .field f ∨ c.right = .field f → catalog f.name = some f.type
  pattern : ∀ p, c.left = .literal (.pattern p) ∨ c.right = .literal (.pattern p) →
    p.isValid = true ∧ (c.op = .equal ∨ c.op = .notEqual ∨ c.op = .matches)
  text : ∀ f s, c.left = .field f ∧ c.right = .literal (.text s) ∨ c.left = .literal (.text s) ∧ c.right = .field f →
    f.type ≠ .date ∧ c.op ≠ .matches

section

variable {r : Reader} {ts us : List Token}

/-- A side is what its tokens say: its field is in the catalog, its pattern has compiled. -/
structure Operand.Known (catalog : Catalog) (o : Operand) : Prop where
  field : ∀ f, o = .field f → catalog f.name = some f.type
  pattern : ∀ p, o = .literal (.pattern p) → p.isValid = true

theorem Side.Derives.known {o : Operand} (h : Side.Derives r ts o) : o.Known r.catalog := by
  cases h with
  | field hf =>
    refine ⟨fun g hg => ?_, fun p hp => Operand.noConfusion hp⟩
    obtain rfl := Operand.field.inj hg
    exact hf
  | pattern hp =>
    refine ⟨fun g hg => Operand.noConfusion hg, fun q hq => ?_⟩
    obtain rfl := Literal.pattern.inj (Operand.literal.inj hq)
    exact (ofSource?_eq_some_iff.mp hp).2
  | _ =>
    refine ⟨fun g hg => ?_, fun q hq => ?_⟩
    · exact Operand.noConfusion hg
    · simp at hq

section

variable {f : FieldRef} {op : Comparator} {l l' : Literal}

theorem Typed.known {catalog : Catalog} (h : Typed f op l l') (hl : (Operand.literal l).Known catalog) :
    (Operand.literal l').Known catalog := by
  cases h with
  | pattern _ hp =>
    refine ⟨fun g hg => Operand.noConfusion hg, fun q hq => ?_⟩
    obtain rfl := Literal.pattern.inj (Operand.literal.inj hq)
    exact (ofSource?_eq_some_iff.mp hp).2
  | date => exact ⟨fun g hg => Operand.noConfusion hg, fun q hq => by simp at hq⟩
  | plain => exact hl

/-- A constant stays a text only where no pattern and no date is asked for. -/
theorem Typed.text {s : String} (h : Typed f op l (.text s)) : f.type ≠ .date ∧ op ≠ .matches := by
  cases h with
  | plain hplain => exact (hplain s rfl).symm

end

section

variable {op : Comparator} {a b left right : Operand}

theorem TypedSides.known {catalog : Catalog} (h : TypedSides op a b left right) (ha : a.Known catalog)
    (hb : b.Known catalog) : left.Known catalog ∧ right.Known catalog := by
  cases h with
  | right h => exact ⟨ha, h.known hb⟩
  | left h => exact ⟨h.known ha, hb⟩
  | _ => exact ⟨ha, hb⟩

theorem TypedSides.subject (h : TypedSides op a b left right) :
    left.subject? ≠ none ∨ right.subject? ≠ none := by
  cases h with
  | right | fields | ruleLeft => exact .inl (Option.some_ne_none _)
  | left | ruleRight => exact .inr (Option.some_ne_none _)

/-- A text beside a field is one that is compared as a text. -/
theorem TypedSides.text (h : TypedSides op a b left right) {f : FieldRef} {s : String}
    (hsides : left = .field f ∧ right = .literal (.text s) ∨ left = .literal (.text s) ∧ right = .field f) :
    f.type ≠ .date ∧ op ≠ .matches := by
  cases h with
  | right h =>
    obtain ⟨hf, hs⟩ := hsides.resolve_right fun h => Operand.noConfusion h.1
    obtain rfl := Operand.field.inj hf
    obtain rfl := Operand.literal.inj hs
    exact h.text
  | left h =>
    obtain ⟨hs, hf⟩ := hsides.resolve_left fun h => Operand.noConfusion h.1
    obtain rfl := Operand.field.inj hf
    obtain rfl := Operand.literal.inj hs
    exact ⟨h.text.1, fun hop => h.text.2 ((mirrored_eq_matches op).mpr hop)⟩
  | _ => simp at hsides

end

theorem Leaf.wellTyped {c : Comparison} (h : Leaf r ts (.comparison c)) : c.WellTyped r.catalog := by
  cases h with
  | boolean hname =>
    refine ⟨.inl (Option.some_ne_none _), fun f hf => ?_, by simp, by simp⟩
    obtain rfl := Operand.field.inj (hf.resolve_right fun h => Operand.noConfusion h)
    exact hname
  | comparison h =>
    cases h with
    | of ha hb htyped hallowed =>
      obtain ⟨hleft, hright⟩ := htyped.known ha.known hb.known
      refine ⟨htyped.subject, fun f hf => ?_, fun p hp => ⟨?_, hallowed.pattern ?_⟩, fun f s => htyped.text⟩
      · exact hf.elim (hleft.field f) (hright.field f)
      · exact hp.elim (hleft.pattern p) (hright.pattern p)
      · exact hp.imp (fun h => congrArg Operand.isPattern h) fun h => congrArg Operand.isPattern h

end

/-! ## Comparisons on a record -/

theorem comparePattern_ok {p : Pattern} (hp : p.isValid = true) {op : Comparator}
    (hop : op = .equal ∨ op = .notEqual ∨ op = .matches) (text : String) :
    ∃ verdict, comparePattern op text p = .ok verdict := by
  obtain ⟨program, hprogram⟩ := Option.isSome_iff_exists.mp hp
  rcases hop with rfl | rfl | rfl
  all_goals
    simp only [comparePattern, Pattern.find, Pattern.fullMatch, hprogram, Option.map_some]
    exact ⟨_, rfl⟩

theorem toLiteral_ne_pattern (value : FieldValue) (p : Pattern) : value.toLiteral ≠ .pattern p := by
  cases value <;> exact Literal.noConfusion

/-- **A typed comparison whose sides were found reports nothing but values that do not fit.** -/
theorem compare_byValue {catalog : Catalog} {c : Comparison} (hc : c.WellTyped catalog) {ρ : Type}
    {e : Evaluator ρ} {record : ρ} {left right : Side} (hleft : Found e record c.left left)
    (hright : Found e record c.right right) : OnlyMismatch ByValue (compare c.op left right) := by
  have hpattern : ∀ {op : Comparator} {p : Pattern}, p.isValid = true →
      (op = .equal ∨ op = .notEqual ∨ op = .matches) → ∀ text, OnlyMismatch ByValue (comparePattern op text p) := by
    intro op p hp hop text err herr
    obtain ⟨verdict, hok⟩ := comparePattern_ok hp hop text
    rw [hok] at herr
    exact nomatch herr
  obtain ⟨a, op, b⟩ := c
  cases hleft with
  | field hf =>
    cases hright with
    | field hg => exact compareField_mismatch (fun _ h => h) _ _ _ _ fun p hp => absurd hp (toLiteral_ne_pattern _ p)
    | literal l =>
      refine compareField_mismatch (fun _ h => h) _ _ _ _ fun p hp => ?_
      obtain ⟨hvalid, hop⟩ := hc.pattern p (.inr (congrArg Operand.literal hp))
      exact hpattern hvalid hop _
  | literal l =>
    cases hright with
    | field hf =>
      refine compareField_mismatch (fun _ h => h) _ _ _ _ fun p hp => ?_
      obtain ⟨hvalid, hop⟩ := hc.pattern p (.inl (congrArg Operand.literal hp))
      -- the operators that search for a pattern are their own mirrors
      have hmirrored : op.mirrored = op := by rcases hop with rfl | rfl | rfl <;> rfl
      exact hpattern hvalid (hmirrored.symm ▸ hop) _
    | literal l' => exact absurd hc.subject (by simp [Operand.subject?])

/-! ## Trees -/

/-- The normal form of the trees that are read with `d` levels. -/
structure WellFormed (catalog : Catalog) (d : ℕ) (t : Node) : Prop where
  root : t.isExpression = true
  /-- A plain expression below the root joins two parts at least. -/
  plain_below : ∀ op first rest, .expression op false first rest ∈ t.innerParts → rest ≠ []
  /-- A plain root with one part is made around a filter without connectives. -/
  plain_root : ∀ op part, t = .expression op false part [] → part.isExpression = false
  /-- A plain expression takes a negation itself. -/
  negated : ∀ op part, .expression op true part [] ∈ t.parts → part.isPlain = false
  height : t.height ≤ 2 * d + 1
  comparisons : ∀ c, .comparison c ∈ t.parts → c.WellTyped catalog

section

variable {n : Node}

/-- The normal form of a regular tree that is made an expression. -/
theorem plain_ne_nil_of_regular (h : n.Regular) {op : Connective} {first : Node} {rest : List Node}
    (hm : .expression op false first rest ∈ n.parts) : rest ≠ [] := by
  rintro rfl
  have hregular := regular_of_mem_parts n h _ hm
  exact Bool.noConfusion (hregular.2.2 rfl).2.1

theorem height_asExpression_le {bound : ℕ} (hb : 2 ≤ bound) (h : n.height ≤ bound) :
    n.asExpression.height ≤ bound := by
  cases n with
  | expression => exact h
  | _ => simpa [Node.asExpression, Node.height, heightAll] using hb

/-- **Every tree that is read is well formed.** -/
theorem wellFormed_of_read {r : Reader} {text : String} {t : Node} (h : r.read text = .ok t) :
    WellFormed r.catalog (max r.maxDepth 1) t := by
  obtain ⟨n, rfl, hshaped, -⟩ := read_shaped h
  have hregular := hshaped.regular
  refine ⟨isExpression_asExpression n, fun op first rest hm => ?_, fun op part heq => ?_,
    fun op part hm => ?_, ?_, fun c hc => ?_⟩
  · exact plain_ne_nil_of_regular hregular (mem_parts_of_mem_inner_asExpression hm)
  · cases n with
    | expression op' negated first rest =>
      obtain ⟨rfl, rfl, rfl, rfl⟩ := Node.expression.inj heq
      exact absurd rfl (plain_ne_nil_of_regular hregular (mem_parts_self _))
    | _ =>
      obtain ⟨-, -, rfl, -⟩ := Node.expression.inj heq
      rfl
  · have hpart : .expression op true part [] ∈ n.parts := by
      rcases eq_or_mem_inner hm with heq | hm
      · cases n with
        | expression => exact heq ▸ mem_parts_self _
        | _ => exact Bool.noConfusion (Node.expression.inj heq).2.1
      · exact mem_parts_of_mem_inner_asExpression hm
    exact ((regular_of_mem_parts n hregular _ hpart).2.2 rfl).2.2
  · exact height_asExpression_le (by omega) ((height_le_need n).trans hshaped.need)
  · have hleaf := mem_leaves_of_mem_parts _ hc
    rw [leaves_asExpression] at hleaf
    obtain ⟨ts, -, hleaf⟩ := hshaped.leaves _ hleaf
    exact hleaf.wellTyped

end

/-- **The trees that are read are well formed.** Whatever a text is read as with `d` levels is in normal
form and typed by the catalog. Hence, if it refers to no saved filter, no evaluation of it reports a
pattern that has not compiled, a pattern under an operator for which there is no search, or a comparison
without a field. -/
theorem read_wellFormed {catalog : Catalog} {registry : Option Registry} {d : ℕ} (hd : 1 ≤ d)
    {text : String} {t : Node} (h : (Reader.mk catalog registry d).read text = .ok t) :
    WellFormed catalog d t ∧
      (t.Standalone → ∀ {ρ : Type} (e : Evaluator ρ) (record : ρ) (reason : String),
        .typeMismatch reason ∈ (e.evaluate t record).2.errors → ¬ Misformed reason) := by
  have hmax : max d 1 = d := max_eq_left hd
  have hwell : WellFormed catalog d t := hmax ▸ wellFormed_of_read h
  refine ⟨hwell, fun halone ρ e record reason herr => ?_⟩
  cases evaluate_local e record halone herr with
  | comparison hmem hleft hright hcompare =>
    obtain ⟨reason', heq, hvalue⟩ := compare_byValue (hwell.comparisons _ hmem) hleft hright _ hcompare
    obtain rfl := EvalError.typeMismatch.inj heq
    exact hvalue.not_misformed

/-- A catalog with a text and a truth value. -/
def readyCatalog : Catalog := fun name =>
  if name = "level" then some .text else if name = "ready" then some .boolean else none

/-- A negated group beside a search for a pattern that stands on the left. In the group, a text is typed
as a pattern. -/
def readyFilter : Node :=
  .expression .or false
    (.expression .and true (.compare (.field ⟨"ready", .boolean⟩) .equal (.literal (.boolean true)))
      [.compare (.field ⟨"level", .text⟩) .matches (.literal (.pattern (.ofSource "err")))])
    [.compare (.literal (.pattern (.ofSource "boot"))) .notEqual (.field ⟨"level", .text⟩)]

/-- A record that holds a text in place of the truth value. -/
def mistyped : Evaluator Unit where
  resolver :=
    ⟨fun _ f =>
      if f = "level" then some ⟨.text "boot", .text⟩
      else if f = "ready" then some ⟨.text "soon", .boolean⟩
      else none,
    fun _ => "boot"⟩
  registry := .empty

theorem read_wellFormed_ready :
    1 ≤ 3 ∧ (Reader.mk readyCatalog none 3).read "!(ready && level MATCHES 'err') || /boot/ != level" =
        .ok readyFilter ∧
      WellFormed readyCatalog 3 readyFilter ∧ readyFilter.Standalone ∧
      (mistyped.evaluate readyFilter ()).2.errors =
        [.typeMismatch "field 'ready' is declared as boolean but holds a text"] ∧
      ¬ Misformed "field 'ready' is declared as boolean but holds a text" := by
  have hread : (Reader.mk readyCatalog none 3).read "!(ready && level MATCHES 'err') || /boot/ != level" =
      .ok readyFilter := by cbv
  have halone : readyFilter.Standalone := by
    constructor <;> simp [readyFilter, Node.parts, partsAll, Node.compare]
  have herrors : (mistyped.evaluate readyFilter ()).2.errors =
      [.typeMismatch "field 'ready' is declared as boolean but holds a text"] := by cbv
  obtain ⟨hwell, hreports⟩ := read_wellFormed (by decide) hread
  refine ⟨by decide, hread, hwell, halone, herrors, hreports halone mistyped () _ ?_⟩
  rw [herrors]
  exact List.mem_cons_self

end LogQuery.Filter
