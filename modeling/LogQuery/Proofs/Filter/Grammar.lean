import LogQuery.Proofs.Filter.Reading

/-!
# Proofs.Filter.Grammar — the grammar of filters

```text
filter      := conjunction ( OR conjunction )*
conjunction := unary ( AND unary )*
unary       := "!" unary | "(" filter ")" | leaf
leaf        := "#" name | string | boolean-field | rule-name | side op side
side        := field | rule-name | "NaN" | string | pattern | number | boolean | set
set         := "[" "]" | "[" member ( "," member )* "]"
```

The grammar relates lists of tokens to trees. It splits a list in any way that fits, and says nothing
of how the split is found; where tokens stand in the text does not matter.

* `Chain`, `Unary`, `Filter.Derives`: connectives, negations and groups, over `Leaf`.
* `Side`, `Typed`, `TypedSides`, `Allowed`: comparisons, with the checks that are made of them.
* `comparisonOf_ok_iff`, `operand_ok_iff`, `comparison_ok_iff`: the reader reads a comparison where the
  grammar derives one.
-/

namespace LogQuery.Filter

/-! ## Comparisons -/

/-- The members of a set, with commas between them. -/
inductive Members : List Token → List String → Prop where
  | last {t : Token} {member : String} (h : t.member? = some member) : Members [t] [member]
  | more {t : Token} {member : String} {ts : List Token} {members : List String}
      (h : t.member? = some member) (h' : Members ts members) :
      Members (t :: .comma :: ts) (member :: members)

/-- The tokens stand for a side of a comparison, whose constant is not typed yet. A name is that of a
field, else that of a saved filter, else the number that is none. -/
inductive Side.Derives (r : Reader) : List Token → Operand → Prop where
  | field {name : String} {type : FieldType} (h : r.catalog name = some type) :
      Derives r [.word name] (.field ⟨name, type⟩)
  | rule {name : String} (h : r.catalog name = none) (h' : r.isRule name = true) :
      Derives r [.word name] (.rule name)
  | nan (h : r.catalog "NaN" = none) (h' : r.isRule "NaN" = false) :
      Derives r [.word "NaN"] (.literal (.number .nan))
  | text (s : String) : Derives r [.text s] (.literal (.text s))
  | pattern {source : String} {p : Pattern} (h : Pattern.ofSource? source = some p) :
      Derives r [.pattern source] (.literal (.pattern p))
  | number (n : Number) : Derives r [.number n] (.literal (.number n))
  | boolean (b : Bool) : Derives r [.boolean b] (.literal (.boolean b))
  | emptySet : Derives r [.leftBracket, .rightBracket] (.literal (.set []))
  | set {ts : List Token} {members : List String} (h : Members ts members) :
      Derives r (.leftBracket :: ts ++ [.rightBracket]) (.literal (.set members))

/-- What a constant beside a field is typed as: a text is a pattern if it is matched with, else a date
if the field holds dates. -/
inductive Typed (f : FieldRef) (op : Comparator) : Literal → Literal → Prop where
  | pattern {s : String} {p : Pattern} (hop : op = .matches) (h : Pattern.ofSource? s = some p) :
      Typed f op (.text s) (.pattern p)
  | date {s : String} {d : Instant} (hop : op ≠ .matches) (hf : f.type = .date)
      (h : Instant.ofText? s = some d) : Typed f op (.text s) (.date d)
  | plain {l : Literal} (h : ∀ s, l = .text s → op ≠ .matches ∧ f.type ≠ .date) : Typed f op l l

/-- What two sides are typed as. One of them is a field or a saved filter. -/
inductive TypedSides (op : Comparator) : Operand → Operand → Operand → Operand → Prop where
  | right {f : FieldRef} {l l' : Literal} (h : Typed f op l l') :
      TypedSides op (.field f) (.literal l) (.field f) (.literal l')
  | left {f : FieldRef} {l l' : Literal} (h : Typed f op.mirrored l l') :
      TypedSides op (.literal l) (.field f) (.literal l') (.field f)
  | fields (f g : FieldRef) : TypedSides op (.field f) (.field g) (.field f) (.field g)
  | ruleLeft (name : String) (right : Operand) : TypedSides op (.rule name) right (.rule name) right
  | ruleRight (left : Operand) (name : String) : TypedSides op left (.rule name) left (.rule name)

/-- The operator fits the sides: a pattern is searched for or matched with, and only a subject of an
ordered type is compared by order. -/
structure Allowed (left : Operand) (op : Comparator) (right : Operand) : Prop where
  pattern : left.isPattern = true ∨ right.isPattern = true → op = .equal ∨ op = .notEqual ∨ op = .matches
  ordering : op.isOrdering = true → ∀ subject ∈ subjectOf left right, subject.2.isOrdered = true

/-- The tokens are a comparison. -/
inductive Comparison.Derives (r : Reader) : List Token → Comparison → Prop where
  | of {ts us : List Token} {a b left right : Operand} {op : Comparator} (ha : Side.Derives r ts a)
      (hb : Side.Derives r us b) (htyped : TypedSides op a b left right) (hallowed : Allowed left op right) :
      Derives r (ts ++ .comparator op :: us) ⟨left, op, right⟩

/-! ## Filters -/

/-- A filter without connectives, negation and groups. A name alone is a field that holds truth values,
or a saved filter. -/
inductive Leaf (r : Reader) : List Token → Node → Prop where
  | alias (name : String) : Leaf r [.alias name] (.aliasOf name)
  | search (s : String) : Leaf r [.text s] (.search s)
  | boolean {name : String} (h : r.catalog name = some .boolean) :
      Leaf r [.word name] (.compare (.field ⟨name, .boolean⟩) .equal (.literal (.boolean true)))
  | rule {name : String} (h : r.catalog name = none) (h' : r.isRule name = true) :
      Leaf r [.word name] (.aliasOf name)
  | comparison {ts : List Token} {c : Comparison} (h : c.Derives r ts) : Leaf r ts (.comparison c)

/-- Further items of a chain, each after the connective. -/
inductive Further (op : Connective) (Item : List Token → Node → Prop) : List Token → List Node → Prop where
  | nil : Further op Item [] []
  | cons {ts us : List Token} {n : Node} {nodes : List Node} (h : Item ts n) (h' : Further op Item us nodes) :
      Further op Item (.connective op :: ts ++ us) (n :: nodes)

/-- A chain of items: one expression with the items in order, or the item itself if there is one. -/
inductive Chain (op : Connective) (Item : List Token → Node → Prop) : List Token → Node → Prop where
  | of {ts us : List Token} {n : Node} {nodes : List Node} (h : Item ts n) (h' : Further op Item us nodes) :
      Chain op Item (ts ++ us) (joined op n nodes)

/-- An operand of a connective: a negation, a group, or a leaf. What stands in a group is a part of its
own, and a negation reaches as far as the next operand. -/
inductive Unary (r : Reader) : List Token → Node → Prop where
  | not {ts : List Token} {n : Node} (h : Unary r ts n) : Unary r (.bang :: ts) n.not
  | group {ts : List Token} {n : Node} (h : Chain .or (Chain .and (Unary r)) ts n) :
      Unary r (.leftParen :: ts ++ [.rightParen]) n
  | leaf {ts : List Token} {n : Node} (h : Leaf r ts n) : Unary r ts n

/-- The tokens are a filter: an alternative of conjunctions. -/
def Derives (r : Reader) (ts : List Token) (n : Node) : Prop := Chain .or (Chain .and (Unary r)) ts n

/-- Induction over operands: what stands in a group is a chain of operands for which the claim holds. -/
theorem Unary.induct {r : Reader} {motive : List Token → Node → Prop}
    (not : ∀ ts n, Unary r ts n → motive ts n → motive (.bang :: ts) n.not)
    (group : ∀ ts n, Chain .or (Chain .and fun us m => Unary r us m ∧ motive us m) ts n →
      motive (.leftParen :: ts ++ [.rightParen]) n)
    (leaf : ∀ ts n, Leaf r ts n → motive ts n) {ts : List Token} {n : Node} (h : Unary r ts n) :
    motive ts n := by
  refine @Unary.rec r (fun ts n _ => motive ts n)
    (fun ts n _ => Chain .or (Chain .and fun us m => Unary r us m ∧ motive us m) ts n)
    (fun ts n _ => Chain .and (fun us m => Unary r us m ∧ motive us m) ts n)
    (fun ts nodes _ => Further .or (Chain .and fun us m => Unary r us m ∧ motive us m) ts nodes)
    (fun ts nodes _ => Further .and (fun us m => Unary r us m ∧ motive us m) ts nodes)
    ?_ ?_ ?_ ?_ ?_ ?_ ?_ ?_ ?_ ts n h
  · exact fun h ih => not _ _ h ih
  · exact fun _ ih => group _ _ ih
  · exact fun h => leaf _ _ h
  · exact fun _ _ ih ih' => .of ih ih'
  · exact fun h _ ih ih' => .of ⟨h, ih⟩ ih'
  · exact .nil
  · exact fun _ _ ih ih' => .cons ih ih'
  · exact .nil
  · exact fun h _ ih ih' => .cons ⟨h, ih⟩ ih'

section

variable {op : Connective} {Item Item' : List Token → Node → Prop}

theorem Further.mono (hitem : ∀ us m, Item us m → Item' us m) {ts : List Token} {nodes : List Node}
    (h : Further op Item ts nodes) : Further op Item' ts nodes := by
  induction h with
  | nil => exact .nil
  | cons h _ ih => exact .cons (hitem _ _ h) ih

/-- A property of all tokens of a chain is one of all tokens of its items. -/
theorem Further.forall {Q : Token → Prop} {ts : List Token} {nodes : List Node} (h : Further op Item ts nodes)
    (hts : ∀ t ∈ ts, Q t) : Further op (fun us m => Item us m ∧ ∀ t ∈ us, Q t) ts nodes := by
  induction h with
  | nil => exact .nil
  | cons h _ ih =>
    simp only [List.cons_append, List.forall_mem_cons, List.forall_mem_append] at hts
    exact .cons ⟨h, hts.2.1⟩ (ih hts.2.2)

theorem Chain.forall {Q : Token → Prop} {ts : List Token} {n : Node} (h : Chain op Item ts n)
    (hts : ∀ t ∈ ts, Q t) : Chain op (fun us m => Item us m ∧ ∀ t ∈ us, Q t) ts n := by
  cases h with
  | of h h' =>
    rw [List.forall_mem_append] at hts
    exact .of ⟨h, hts.1⟩ (h'.forall hts.2)

theorem Chain.single {ts : List Token} {n : Node} (h : Item ts n) : Chain op Item ts n := by
  have hchain : Chain op Item (ts ++ []) n := .of h .nil
  rwa [List.append_nil] at hchain

theorem Chain.mono (hitem : ∀ us m, Item us m → Item' us m) {ts : List Token} {n : Node}
    (h : Chain op Item ts n) : Chain op Item' ts n := by
  cases h with
  | of h h' => exact .of (hitem _ _ h) (h'.mono hitem)

end

/-! ## Something is derived from some tokens only -/

section

variable {r : Reader} {ts : List Token}

theorem Side.Derives.ne_nil {o : Operand} (h : Side.Derives r ts o) : ts ≠ [] := by
  cases h <;> simp

theorem Comparison.Derives.ne_nil {c : Comparison} (h : c.Derives r ts) : ts ≠ [] := by
  cases h
  simp

theorem Leaf.ne_nil {n : Node} (h : Leaf r ts n) : ts ≠ [] := by
  cases h with
  | comparison h => exact h.ne_nil
  | _ => simp

theorem Unary.ne_nil {n : Node} (h : Unary r ts n) : ts ≠ [] := by
  cases h with
  | leaf h => exact h.ne_nil
  | _ => simp

theorem Derives.ne_nil {n : Node} (h : Derives r ts n) : ts ≠ [] := by
  obtain ⟨⟨hfirst, -⟩, -⟩ := h
  simp [hfirst.ne_nil]

end

/-! ## The checks of comparisons -/

theorem ofSource?_eq_some_iff {source : String} {p : Pattern} :
    Pattern.ofSource? source = some p ↔ p.source = source ∧ p.isValid = true := by
  have hp := p.eq_ofSource
  simp only [Pattern.ofSource?, Option.ite_none_right_eq_some, Option.some.injEq]
  constructor
  · rintro ⟨hvalid, rfl⟩
    exact ⟨rfl, hvalid⟩
  · rintro ⟨rfl, hvalid⟩
    rw [← hp]
    exact ⟨hvalid, rfl⟩

theorem patternOf_ok_iff {source : String} {l : Literal} :
    patternOf source = .ok l ↔ ∃ p, Pattern.ofSource? source = some p ∧ l = .pattern p := by
  unfold patternOf
  cases Pattern.ofSource? source with
  | none => simp
  | some p => simp [eq_comm]

theorem typeLiteral_ok_iff {f : FieldRef} {op : Comparator} {l l' : Literal} :
    typeLiteral f op l = .ok l' ↔ Typed f op l l' := by
  constructor
  · intro h
    cases l with
    | text s =>
      rw [typeLiteral] at h
      split_ifs at h with hop hf
      · obtain ⟨p, hp, rfl⟩ := patternOf_ok_iff.mp h
        exact .pattern hop hp
      · cases hd : Instant.ofText? s with
        | none => simp [hd] at h
        | some d =>
          simp only [hd, Except.ok.injEq] at h
          exact h ▸ .date hop hf hd
      · obtain rfl := Except.ok.inj h
        exact .plain fun _ _ => ⟨hop, hf⟩
    | _ =>
      obtain rfl := Except.ok.inj h
      exact .plain fun s hs => Literal.noConfusion hs
  · intro h
    cases h with
    | pattern hop hp => rw [typeLiteral, if_pos hop, patternOf_ok_iff.mpr ⟨_, hp, rfl⟩]
    | date hop hf hd => rw [typeLiteral, if_neg hop, if_pos hf, hd]
    | plain h =>
      cases l with
      | text s => rw [typeLiteral, if_neg (h s rfl).1, if_neg (h s rfl).2]
      | _ => rfl

theorem typeSides_ok_iff {left right left' right' : Operand} {op : Comparator} {position : ℕ} :
    typeSides left op right position = .ok (left', right') ↔ TypedSides op left right left' right' := by
  constructor
  · intro h
    cases left with
    | field f =>
      cases right with
      | field g =>
        obtain ⟨rfl, rfl⟩ := Prod.mk.inj (Except.ok.inj h)
        exact .fields f g
      | literal l =>
        obtain ⟨l', ht, heq⟩ := map_eq_ok.mp h
        obtain ⟨rfl, rfl⟩ := Prod.mk.inj heq
        exact .right (typeLiteral_ok_iff.mp ht)
      | rule name =>
        obtain ⟨rfl, rfl⟩ := Prod.mk.inj (Except.ok.inj h)
        exact .ruleRight (.field f) name
    | literal l =>
      cases right with
      | field f =>
        obtain ⟨l', ht, heq⟩ := map_eq_ok.mp h
        obtain ⟨rfl, rfl⟩ := Prod.mk.inj heq
        exact .left (typeLiteral_ok_iff.mp ht)
      | literal l' => exact nomatch h
      | rule name =>
        obtain ⟨rfl, rfl⟩ := Prod.mk.inj (Except.ok.inj h)
        exact .ruleRight (.literal l) name
    | rule name =>
      have hsame : (.rule name, right) = (left', right') := by
        cases right <;> exact Except.ok.inj h
      obtain ⟨rfl, rfl⟩ := Prod.mk.inj hsame
      exact .ruleLeft name right
  · intro h
    cases h with
    | right h => simp only [typeSides, typeLiteral_ok_iff.mpr h, Except.map]
    | left h => simp only [typeSides, typeLiteral_ok_iff.mpr h, Except.map]
    | fields f g => rfl
    | ruleLeft name right => cases right <;> rfl
    | ruleRight left name => cases left <;> rfl

theorem checks_ok_iff {left right : Operand} {op : Comparator} :
    checkPattern left op right = .ok () ∧ checkOrdering left op right = .ok () ↔ Allowed left op right := by
  have hpattern : checkPattern left op right = .ok () ↔
      (left.isPattern = true ∨ right.isPattern = true → op = .equal ∨ op = .notEqual ∨ op = .matches) := by
    unfold checkPattern
    rw [← Bool.or_eq_true_iff]
    split_ifs with h hop
    · exact ⟨fun _ _ => hop, fun _ => rfl⟩
    · exact ⟨False.elim, fun h' => absurd (h' h) hop⟩
    · exact ⟨fun _ h' => absurd h' h, fun _ => rfl⟩
  have hordering : checkOrdering left op right = .ok () ↔
      (op.isOrdering = true → ∀ subject ∈ subjectOf left right, subject.2.isOrdered = true) := by
    unfold checkOrdering
    cases subjectOf left right with
    | none => simp
    | some subject => cases op.isOrdering <;> cases h : subject.2.isOrdered <;> simp [h]
  rw [hpattern, hordering]
  exact ⟨fun h => ⟨h.1, h.2⟩, fun h => ⟨h.1, h.2⟩⟩

/-- What the reading of a comparison went through. -/
theorem comparisonOf_ok {left right : Operand} {op : Comparator} {position : ℕ} {n : Node}
    (h : comparisonOf left op right position = .ok n) :
    ∃ left' right', typeSides left op right position = .ok (left', right') ∧
      checkPattern left' op right' = .ok () ∧ checkOrdering left' op right' = .ok () ∧
      n = .comparison ⟨left', op, right'⟩ := by
  rw [comparisonOf] at h
  obtain ⟨⟨left', right'⟩, ht, h⟩ := bind_eq_ok.mp h
  obtain ⟨⟨⟩, hp, h⟩ := bind_eq_ok.mp h
  obtain ⟨⟨⟩, ho, h⟩ := bind_eq_ok.mp h
  exact ⟨left', right', ht, hp, ho, (Except.ok.inj h).symm⟩

/-- The reader types and checks a comparison as the grammar does. -/
theorem comparisonOf_ok_iff {a b : Operand} {op : Comparator} {position : ℕ} {n : Node} :
    comparisonOf a op b position = .ok n ↔
      ∃ left right, TypedSides op a b left right ∧ Allowed left op right ∧ n = .compare left op right := by
  constructor
  · intro h
    obtain ⟨left, right, ht, hp, ho, rfl⟩ := comparisonOf_ok h
    exact ⟨left, right, typeSides_ok_iff.mp ht, checks_ok_iff.mp ⟨hp, ho⟩, rfl⟩
  · rintro ⟨left, right, ht, hallowed, rfl⟩
    obtain ⟨hp, ho⟩ := checks_ok_iff.mpr hallowed
    simp only [comparisonOf, typeSides_ok_iff.mpr ht, hp, ho, bind, Except.bind]
    rfl

/-! ## Sides are read as they are derived -/

theorem eq_singleton_of_tokensOf {located : List Located} {token : Token} (h : tokensOf located = [token]) :
    ∃ position, located = [⟨token, position⟩] := by
  obtain ⟨position, rest, rfl, hnil⟩ := exists_of_tokensOf_cons h
  obtain rfl := eq_nil_of_tokensOf hnil
  exact ⟨position, rfl⟩

theorem setMembers_ok_iff {start : ℕ} {ts rest : List Located} {members : List String} :
    setMembers start ts = .ok (members, rest) ↔
      ∃ us position, ts = us ++ ⟨.rightBracket, position⟩ :: rest ∧ Members (tokensOf us) members := by
  constructor
  · intro h
    fun_induction setMembers start ts generalizing members rest with
    | case1 => exact nomatch h
    | case2 => exact nomatch h
    | case3 => exact nomatch h
    | case4 t position member hmember position' ts =>
      simp only [Except.ok.injEq, Prod.mk.injEq] at h
      rw [← h.1, ← h.2]
      exact ⟨[⟨t, position⟩], position', rfl, .last hmember⟩
    | case5 t position member hmember position' ts ih =>
      obtain ⟨⟨members', rest'⟩, hread, heq⟩ := map_eq_ok.mp h
      obtain ⟨rfl, rfl⟩ := Prod.mk.inj heq
      obtain ⟨us, position'', rfl, hus⟩ := ih hread
      exact ⟨⟨t, position⟩ :: ⟨.comma, position'⟩ :: us, position'', rfl, .more hmember hus⟩
    | case6 => exact nomatch h
  · rintro ⟨us, position, rfl, h⟩
    generalize htokens : tokensOf us = tokens at h
    induction h generalizing us with
    | last hmember =>
      obtain ⟨position', rfl⟩ := eq_singleton_of_tokensOf htokens
      simp only [List.cons_append, List.nil_append, setMembers, hmember]
    | more hmember _ ih =>
      obtain ⟨position', us', rfl, hcomma⟩ := exists_of_tokensOf_cons htokens
      obtain ⟨position'', us, rfl, hmore⟩ := exists_of_tokensOf_cons hcomma
      simp only [List.cons_append, setMembers, hmember, ih us hmore]
      rfl

theorem exists_member_of_members {located : List Located} {members : List String}
    (h : Members (tokensOf located) members) :
    ∃ t ts, located = t :: ts ∧ ∃ member, t.token.member? = some member := by
  cases located with
  | nil =>
    generalize htokens : tokensOf [] = tokens at h
    cases h <;> simp at htokens
  | cons t ts =>
    refine ⟨t, ts, rfl, ?_⟩
    generalize htokens : tokensOf (t :: ts) = tokens at h
    cases h with
    | last hmember => exact (List.cons.inj htokens).1 ▸ ⟨_, hmember⟩
    | more hmember => exact (List.cons.inj htokens).1 ▸ ⟨_, hmember⟩

section

variable {r : Reader}

theorem nameOperand_ok_iff {name : String} {o : Operand} :
    r.nameOperand name = .ok o ↔ Side.Derives r [.word name] o := by
  constructor
  · intro h
    unfold Reader.nameOperand at h
    split at h
    · rename_i type hcatalog
      obtain rfl := Except.ok.inj h
      exact .field hcatalog
    · rename_i hcatalog
      split_ifs at h with hrule hnan
      · obtain rfl := Except.ok.inj h
        exact .rule hcatalog hrule
      · obtain rfl := Except.ok.inj h
        subst hnan
        exact .nan hcatalog (by simpa using hrule)
  · intro h
    generalize htokens : [Token.word name] = tokens at h
    cases h with
    | field h =>
      obtain rfl := Token.word.inj (List.cons.inj htokens).1
      simp [Reader.nameOperand, h]
    | rule h h' =>
      obtain rfl := Token.word.inj (List.cons.inj htokens).1
      simp [Reader.nameOperand, h, h']
    | nan h h' =>
      obtain rfl := Token.word.inj (List.cons.inj htokens).1
      simp [Reader.nameOperand, h, h']
    | _ => simp at htokens

/-- A set is read where the grammar derives one. -/
theorem setLiteral_ok_iff {start : ℕ} {ts rest : List Located} {l : Literal} :
    setLiteral start ts = .ok (l, rest) ↔ ∃ us position, ts = us ++ ⟨.rightBracket, position⟩ :: rest ∧
      ∃ members, l = .set members ∧ (us = [] ∧ members = [] ∨ Members (tokensOf us) members) := by
  constructor
  · intro h
    unfold setLiteral at h
    split at h
    · rename_i position ts
      simp only [Except.ok.injEq, Prod.mk.injEq] at h
      rw [← h.1, ← h.2]
      exact ⟨[], position, rfl, [], rfl, .inl ⟨rfl, rfl⟩⟩
    · obtain ⟨⟨members, rest'⟩, hread, heq⟩ := map_eq_ok.mp h
      obtain ⟨rfl, rfl⟩ := Prod.mk.inj heq
      obtain ⟨us, position, rfl, hus⟩ := setMembers_ok_iff.mp hread
      exact ⟨us, position, rfl, members, rfl, .inr hus⟩
  · rintro ⟨us, position, rfl, members, rfl, ⟨rfl, rfl⟩ | hus⟩
    · rfl
    · have hread : setMembers start (us ++ ⟨.rightBracket, position⟩ :: rest) = .ok (members, rest) :=
        setMembers_ok_iff.mpr ⟨us, position, rfl, hus⟩
      unfold setLiteral
      split
      · -- a closing bracket is no member
        rename_i position' ts heq
        obtain ⟨u, us, rfl, member, hmember⟩ := exists_member_of_members hus
        obtain rfl : u = _ := (List.cons.inj heq).1
        exact nomatch hmember
      · rw [hread]
        rfl

theorem operand_sound {t : Located} {ts rest : List Located} {o : Operand} (h : r.operand t ts = .ok (o, rest)) :
    ∃ us, t :: ts = us ++ rest ∧ Side.Derives r (tokensOf us) o := by
  obtain ⟨token, position⟩ := t
  have hone : ∀ {o' : Operand}, (o', ts) = (o, rest) →
      Side.Derives r [token] o' → ∃ us, ⟨token, position⟩ :: ts = us ++ rest ∧ Side.Derives r (tokensOf us) o := by
    intro o' heq ho
    obtain ⟨rfl, rfl⟩ := Prod.mk.inj heq
    exact ⟨[⟨token, position⟩], rfl, ho⟩
  cases token with
  | word name =>
    obtain ⟨o', hname, heq⟩ := map_eq_ok.mp h
    exact hone heq (nameOperand_ok_iff.mp hname)
  | text s => exact hone (Except.ok.inj h) (.text s)
  | pattern source =>
    obtain ⟨l, hl, heq⟩ := map_eq_ok.mp h
    obtain ⟨p, hsource, rfl⟩ := patternOf_ok_iff.mp hl
    exact hone heq (.pattern hsource)
  | number n => exact hone (Except.ok.inj h) (.number n)
  | boolean b => exact hone (Except.ok.inj h) (.boolean b)
  | leftBracket =>
    obtain ⟨⟨l, rest'⟩, hset, heq⟩ := map_eq_ok.mp h
    obtain ⟨rfl, rfl⟩ := Prod.mk.inj heq
    obtain ⟨us, position', rfl, members, rfl, hmembers⟩ := setLiteral_ok_iff.mp hset
    refine ⟨⟨.leftBracket, position⟩ :: us ++ [⟨.rightBracket, position'⟩], by simp, ?_⟩
    rw [tokensOf_append]
    rcases hmembers with ⟨rfl, rfl⟩ | hmembers
    exacts [.emptySet, .set hmembers]
  | _ => simp [Reader.operand] at h

/-- Between its brackets a set is read whole. -/
theorem operand_set {t : Located} {ts us rest : List Located} {tokens : List Token} {members : List String}
    (hus : t :: ts = us ++ rest) (htokens : tokensOf us = .leftBracket :: tokens ++ [.rightBracket])
    (hmembers : tokens = [] ∧ members = [] ∨ Members tokens members) :
    r.operand t ts = .ok (.literal (.set members), rest) := by
  obtain ⟨position, us', rfl, hmore⟩ := exists_of_tokensOf_cons htokens
  obtain ⟨vs, ws, rfl, rfl, hws⟩ := List.map_eq_append_iff.mp hmore
  obtain ⟨position', rfl⟩ := eq_singleton_of_tokensOf hws
  rw [List.cons_append, List.append_assoc, List.singleton_append] at hus
  obtain ⟨rfl, rfl⟩ := List.cons.inj hus
  have hread : setLiteral position (vs ++ ⟨.rightBracket, position'⟩ :: rest) = .ok (.set members, rest) := by
    refine setLiteral_ok_iff.mpr ⟨vs, position', rfl, members, rfl, ?_⟩
    exact hmembers.imp_left fun h => ⟨eq_nil_of_tokensOf h.1, h.2⟩
  simp only [Reader.operand, hread, Except.map]

theorem operand_complete {t : Located} {ts us rest : List Located} {o : Operand} (hus : t :: ts = us ++ rest)
    (h : Side.Derives r (tokensOf us) o) : r.operand t ts = .ok (o, rest) := by
  obtain ⟨token, position⟩ := t
  have hone : ∀ {token' : Token}, tokensOf us = [token'] → token = token' ∧ ts = rest := by
    intro token' htokens
    obtain ⟨position', rfl⟩ := eq_singleton_of_tokensOf htokens
    simp only [List.cons_append, List.nil_append, List.cons.injEq, Located.mk.injEq] at hus
    exact ⟨hus.1.1, hus.2⟩
  generalize htokens : tokensOf us = tokens at h
  cases h with
  | field h =>
    obtain ⟨rfl, rfl⟩ := hone htokens
    simp only [Reader.operand, nameOperand_ok_iff.mpr (.field h), Except.map]
  | rule h h' =>
    obtain ⟨rfl, rfl⟩ := hone htokens
    simp only [Reader.operand, nameOperand_ok_iff.mpr (.rule h h'), Except.map]
  | nan h h' =>
    obtain ⟨rfl, rfl⟩ := hone htokens
    simp only [Reader.operand, nameOperand_ok_iff.mpr (.nan h h'), Except.map]
  | text s =>
    obtain ⟨rfl, rfl⟩ := hone htokens
    rfl
  | pattern h =>
    obtain ⟨rfl, rfl⟩ := hone htokens
    simp only [Reader.operand, patternOf_ok_iff.mpr ⟨_, h, rfl⟩, Except.map]
  | number n =>
    obtain ⟨rfl, rfl⟩ := hone htokens
    rfl
  | boolean b =>
    obtain ⟨rfl, rfl⟩ := hone htokens
    rfl
  | emptySet =>
    have hempty : tokensOf us = .leftBracket :: [] ++ [.rightBracket] := htokens
    exact operand_set hus hempty (.inl ⟨rfl, rfl⟩)
  | set h => exact operand_set hus htokens (.inr h)

/-- A side is read where the grammar derives one. -/
theorem operand_ok_iff {t : Located} {ts rest : List Located} {o : Operand} :
    r.operand t ts = .ok (o, rest) ↔ ∃ us, t :: ts = us ++ rest ∧ Side.Derives r (tokensOf us) o :=
  ⟨operand_sound, fun ⟨_, hus, h⟩ => operand_complete hus h⟩

/-- A comparison is read where the grammar derives one. -/
theorem comparison_ok_iff {t : Located} {ts rest : List Located} {n : Node} :
    r.comparison t ts = .ok (n, rest) ↔
      ∃ us c, t :: ts = us ++ rest ∧ c.Derives r (tokensOf us) ∧ n = .comparison c := by
  constructor
  · intro h
    obtain ⟨a, op, position, u, us, b, hl, hr, hc⟩ := comparison_ok h
    obtain ⟨ls, hls, ha⟩ := operand_ok_iff.mp hl
    obtain ⟨rs, hrs, hb⟩ := operand_ok_iff.mp hr
    obtain ⟨left, right, htyped, hallowed, rfl⟩ := comparisonOf_ok_iff.mp hc
    refine ⟨ls ++ ⟨.comparator op, position⟩ :: rs, ⟨left, op, right⟩, ?_, ?_, rfl⟩
    · rw [hls, hrs, List.append_assoc, List.cons_append]
    · rw [tokensOf_append, tokensOf_cons]
      exact .of ha hb htyped hallowed
  · rintro ⟨us, c, hus, h, rfl⟩
    generalize htokens : tokensOf us = tokens at h
    cases h with
    | @of _ _ a b left right op ha hb htyped hallowed =>
      obtain ⟨ls, us', rfl, rfl, hmore⟩ := List.map_eq_append_iff.mp htokens
      obtain ⟨position, rs, rfl, rfl⟩ := exists_of_tokensOf_cons hmore
      rw [List.append_assoc, List.cons_append] at hus
      have hl := operand_ok_iff.mpr ⟨ls, hus, ha⟩
      have hne : rs ++ rest ≠ [] := fun e => hb.ne_nil (by rw [(List.append_eq_nil_iff.mp e).1]; rfl)
      obtain ⟨u, vs, hvs⟩ := List.exists_cons_of_ne_nil hne
      have hr := operand_ok_iff.mpr ⟨rs, hvs.symm, hb⟩
      have hc : comparisonOf a op b position = .ok (.compare left op right) :=
        comparisonOf_ok_iff.mpr ⟨left, right, htyped, hallowed, rfl⟩
      rw [hvs] at hl
      simp only [Reader.comparison, hl, comparator, hr, hc, bind, Except.bind]
      rfl

end

end LogQuery.Filter
