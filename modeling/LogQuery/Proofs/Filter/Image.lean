import LogQuery.Proofs.Filter.Canonical
import LogQuery.Proofs.Filter.Typing

/-!
# Proofs.Filter.Image — what the reader gives

Every tree that is read has a normal form, names only what the reader knows, and is not much deeper
than the limit. As the reader reads what the grammar derives, all of it is proved of derivations.

* `lex_proper`: words, names, patterns and numbers come out of the lexer in their written form.
* `Leaf.names`, `Leaf.restates`: a leaf can be written, and restated if it is `Writable`.
* `Shaped`: the invariant of the parts of a filter; `Unary.shapedFrom` with the bound on levels.
* `read_sound`, `read_names`: what holds of a tree that is read.
-/

namespace LogQuery.Filter

/-! ## Tokens of the lexer -/

/-- The token is in the form in which the lexer gives tokens. -/
def Token.Proper : Token → Prop
  | .word name => IsWord name
  | .alias name => IsStored name
  | .pattern source => Paired source.toList
  | .number n => n ≠ .nan
  | _ => True

theorem eq_of_ofWord {cs : List Char} {name : String} (h : Token.ofWord cs = .word name) :
    name = String.ofList cs := by
  unfold Token.ofWord at h
  split at h <;> first | exact (Token.word.inj h).symm | simp at h

theorem ofWord_proper {c : Char} {cs : List Char} (hc : (c.isAlpha || c == '_') = true)
    (hcs : ∀ d ∈ cs, isNameChar d = true) : (Token.ofWord (c :: cs)).Proper := by
  cases h : Token.ofWord (c :: cs) with
  | word name =>
    obtain rfl := eq_of_ofWord h
    exact ⟨⟨c, cs, String.toList_ofList, hc, hcs⟩, by rw [String.toList_ofList, h]⟩
  | «alias» name => unfold Token.ofWord at h; split at h <;> simp at h
  | pattern source => unfold Token.ofWord at h; split at h <;> simp at h
  | number n => unfold Token.ofWord at h; split at h <;> simp at h
  | _ => exact trivial

theorem ofDecimal_ne_nan (negative : Bool) (digits : ℕ) (power : ℤ) :
    Number.ofDecimal negative digits power ≠ .nan := by
  have hratio : ∀ num den, Number.ofRatio negative num den ≠ .nan := by
    intro num den h
    unfold Number.ofRatio at h
    generalize Magnitude.ofRatio? num den = m at h
    cases m <;> simp at h
  unfold Number.ofDecimal
  dsimp only
  split_ifs
  · simp
  · simp
  · exact hratio _ _
  · exact hratio _ _

theorem decimal?_ne_nan {negative : Bool} {cs : List Char} {n : Number}
    (h : Number.decimal? negative cs = some n) : n ≠ .nan := by
  simp only [Number.decimal?] at h
  split_ifs at h
  obtain ⟨power, -, rfl⟩ := Option.map_eq_some_iff.mp h
  exact ofDecimal_ne_nan _ _ _

/-- What starts like a decimal is no NaN. -/
theorem unsigned?_ne_nan {negative : Bool} {c : Char} {cs : List Char} {n : Number}
    (hc : (c.isDigit || c == '.') = true) (h : Number.unsigned? negative (c :: cs) = some n) :
    n ≠ .nan := by
  have hlow : c.toLower = c := by
    rcases (by simpa using hc : c.isDigit = true ∨ c = '.') with hd | rfl
    exacts [Number.toLower_of_isDigit hd, rfl]
  simp only [Number.unsigned?] at h
  split_ifs at h with h1 h2
  · rw [← Option.some.inj h]
    exact Number.noConfusion
  · have hn := String.ofList_injective (h2 : _ = String.ofList ['n', 'a', 'n'])
    rw [List.map_cons, hlow] at hn
    obtain ⟨rfl, -⟩ := List.cons_eq_cons.mp hn
    exact absurd hc (by decide)
  · exact decimal?_ne_nan h

theorem numberAt_proper {c : Char} {p q : Place} {t : Token} (h : numberAt c p = .ok (t, q))
    (hc : c.isDigit = true ∨ c = '-' ∧ (p.rest.head?.any fun d => d.isDigit || d == '.') = true) :
    t.Proper := by
  simp only [numberAt] at h
  cases hn : Number.ofChars? (c :: (numberChars false p.rest).1) with
  | none => simp [hn] at h
  | some n =>
    simp only [hn, Except.ok.injEq, Prod.mk.injEq] at h
    rw [← h.1]
    show n ≠ .nan
    rcases hc with hc | ⟨rfl, hhead⟩
    · rw [Number.ofChars?_of_digit hc] at hn
      exact unsigned?_ne_nan (by rw [hc]; rfl) hn
    · cases hrest : p.rest with
      | nil => rw [hrest] at hhead; simp at hhead
      | cons d ds =>
        rw [hrest] at hhead hn
        have hd : (d.isDigit || d == '.') = true := by simpa using hhead
        rw [numberChars] at hn
        simp only [hd, Bool.true_or, if_true] at hn
        exact unsigned?_ne_nan hd hn

theorem patternFrom_paired {start offset : ℕ} {cs s : List Char} {p : Place}
    (h : patternFrom start offset cs = .ok (s, p)) : Paired s := by
  induction hn : cs.length using Nat.strong_induction_on generalizing offset cs s p with
  | _ n ih =>
    cases cs with
    | nil => simp [patternFrom] at h
    | cons c cs =>
      rw [List.length_cons] at hn
      by_cases hslash : c = '/'
      · rw [hslash, patternFrom_close, Except.ok.injEq, Prod.mk.injEq] at h
        exact h.1 ▸ .nil
      by_cases hback : c = '\\'
      · cases cs with
        | nil => simp [patternFrom, hback] at h
        | cons e cs =>
          rw [hback, patternFrom_escape] at h
          obtain ⟨⟨s', p'⟩, hread, heq⟩ := map_eq_ok.mp h
          have hr := ih cs.length (by rw [List.length_cons] at hn; omega) hread rfl
          rw [← (Prod.mk.inj heq).1]
          split_ifs with he
          · exact .bare (by rw [he]; decide) hr
          · exact .escape he hr
      · rw [patternFrom_bare hslash hback] at h
        obtain ⟨⟨s', p'⟩, hread, heq⟩ := map_eq_ok.mp h
        have hr := ih cs.length (by omega) hread rfl
        exact (Prod.mk.inj heq).1 ▸ .bare hback hr

theorem pairOr_proper {next : Char} {long t : Token} {short : Except ReadError (Token × Place)}
    {p q : Place} (hlong : long.Proper) (hshort : short = .ok (t, q) → t.Proper)
    (h : pairOr next long short p = .ok (t, q)) : t.Proper := by
  unfold pairOr at h
  split at h
  · split_ifs at h
    · simp only [Except.ok.injEq, Prod.mk.injEq] at h
      exact h.1 ▸ hlong
    · exact hshort h
  · exact hshort h

theorem proper_of_ok {t u : Token} {p q : Place}
    (h : (Except.ok (u, p) : Except ReadError (Token × Place)) = .ok (t, q)) (hu : u.Proper) :
    t.Proper := by
  cases h; exact hu

theorem nameAt_nameChars (p : Place) : ∀ c ∈ (nameAt p).1, isNameChar c = true :=
  List.all_eq_true.mp List.all_takeWhile

theorem scan_proper {offset : ℕ} {c : Char} {p q : Place} {t : Token}
    (h : scan offset c p = .ok (t, q)) : t.Proper := by
  unfold scan at h
  split at h
  case h_1 | h_2 | h_3 | h_4 | h_5 => exact proper_of_ok h trivial
  case h_6 | h_8 | h_9 =>
    refine pairOr_proper ?_ (fun h => proper_of_ok h ?_) h
    all_goals exact trivial
  case h_7 | h_10 | h_11 =>
    refine pairOr_proper ?_ ?_ h
    · exact trivial
    · exact fun h => nomatch h
  case h_12 =>
    simp only at h
    split_ifs at h with hname
    refine proper_of_ok h ⟨?_, ?_⟩
    · intro he
      rw [String.ofList_eq_empty_iff] at he
      exact hname (by rw [he]; rfl)
    · rw [String.toList_ofList]
      exact nameAt_nameChars p
  case h_13 | h_14 =>
    obtain ⟨⟨s, q'⟩, -, heq⟩ := map_eq_ok.mp h
    obtain ⟨rfl, rfl⟩ := Prod.mk.inj heq
    exact trivial
  case h_15 =>
    obtain ⟨⟨s, q'⟩, hs, heq⟩ := map_eq_ok.mp h
    obtain ⟨rfl, rfl⟩ := Prod.mk.inj heq
    show Paired _
    rw [String.toList_ofList]
    exact patternFrom_paired hs
  case h_16 =>
    split_ifs at h with hhead
    exact numberAt_proper h (.inr ⟨rfl, hhead⟩)
  case h_17 =>
    split_ifs at h with hdigit hstart
    · exact numberAt_proper h (.inl hdigit)
    · exact proper_of_ok h (ofWord_proper hstart (nameAt_nameChars p))

/-- **All tokens are in the form in which the lexer gives tokens.** -/
theorem lex_proper {offset : ℕ} {cs : List Char} {ts : List Located} (h : lex offset cs = .ok ts) :
    ∀ t ∈ tokensOf ts, t.Proper := by
  fun_induction lex offset cs generalizing ts with
  | case1 =>
    obtain rfl : [] = ts := Except.ok.inj h
    exact fun t ht => absurd ht List.not_mem_nil
  | case2 _ _ _ _ ih => exact ih h
  | case3 => exact nomatch h
  | case4 offset c cs _ t p hscan _ ih =>
    obtain ⟨ts', hts, rfl⟩ := map_eq_ok.mp h
    rw [tokensOf_cons, List.forall_mem_cons]
    exact ⟨scan_proper hscan, ih hts⟩

/-! ## Sides and leaves -/

theorem IsWord.isStored {name : String} (h : IsWord name) : IsStored name := by
  obtain ⟨⟨c, cs, hname, hc, hcs⟩, -⟩ := h
  refine ⟨fun he => ?_, fun d hd => ?_⟩
  · rw [he] at hname
    simp at hname
  · rw [hname] at hd
    rcases List.mem_cons.mp hd with rfl | hd
    · simp only [isNameChar, Char.isAlphanum, Bool.or_eq_true] at hc ⊢
      rcases hc with h | h
      exacts [.inl (.inl (.inl h)), .inl (.inr h)]
    · exact hcs d hd

section

variable {r : Reader} {ts : List Token}

theorem Side.Derives.reads {o : Operand} (h : Side.Derives r ts o) (hproper : ∀ t ∈ ts, t.Proper) :
    r.Reads o := by
  cases h with
  | field h => exact ⟨⟨hproper _ List.mem_cons_self, h⟩, by simp⟩
  | rule h h' => exact ⟨⟨hproper _ List.mem_cons_self, h, h'⟩, by simp⟩
  | nan h h' => exact ⟨⟨h, h'⟩, by simp⟩
  | pattern h =>
    obtain ⟨rfl, hvalid⟩ := ofSource?_eq_some_iff.mp h
    exact ⟨⟨hvalid, .inr (hproper _ List.mem_cons_self)⟩, by simp⟩
  | number n =>
    have hn : n ≠ .nan := hproper _ List.mem_cons_self
    cases n with
    | nan => exact absurd rfl hn
    | _ => exact ⟨trivial, by simp⟩
  | _ => exact ⟨trivial, by simp⟩

/-- A leaf can be written: what it names is found by its names. -/
theorem Leaf.names {n : Node} (h : Leaf r ts n) (hproper : ∀ t ∈ ts, t.Proper) : r.Names n := by
  cases h with
  | «alias» name =>
    have hname : IsStored name := hproper _ List.mem_cons_self
    rwa [Node.aliasOf, hname.sanitize]
  | search s => exact trivial
  | boolean h => exact ⟨⟨hproper _ List.mem_cons_self, h⟩, trivial⟩
  | rule =>
    have hname : IsWord _ := hproper _ List.mem_cons_self
    rw [Node.aliasOf, hname.isStored.sanitize]
    exact hname.isStored
  | comparison h =>
    cases h with
    | of ha hb htyped =>
      rw [List.forall_mem_append, List.forall_mem_cons] at hproper
      exact htyped.named (ha.reads hproper.1) (hb.reads hproper.2.2)

/-- A leaf can be restated, if it can be written and read again. -/
theorem Leaf.restates {n : Node} (h : Leaf r ts n) (hproper : ∀ t ∈ ts, t.Proper) (hw : n.Writable) :
    r.Restates n := by
  have hnames := h.names hproper
  cases h with
  | boolean => exact ⟨hnames.1, hnames.2, fun _ => rfl⟩
  | comparison h =>
    cases h with
    | of ha hb htyped hallowed =>
      rw [List.forall_mem_append, List.forall_mem_cons] at hproper
      exact htyped.restates hallowed (ha.reads hproper.1) (hb.reads hproper.2.2) hw
  | _ => exact hnames

end

/-! ## The shape of what is read -/

mutual

/-- An expression has two parts or more, or it negates a part that cannot be negated itself. -/
def Node.Regular : Node → Prop
  | .expression op negated first rest =>
    first.Regular ∧ RegularAll rest ∧
      (rest = [] → op = .and ∧ negated = true ∧ first.isPlain = false)
  | .comparison _ => True
  | .search _ => True
  | .alias _ => True

/-- Every part is regular. -/
def RegularAll : List Node → Prop
  | [] => True
  | node :: nodes => node.Regular ∧ RegularAll nodes

end

/-- The invariant of what is read: leaves are derived from tokens of the lexer, the form is normal, and
so many levels suffice to read the tree again. -/
structure Reader.Shaped (r : Reader) (bound : ℕ) (n : Node) : Prop where
  leaves : ∀ leaf ∈ n.leaves, ∃ ts, (∀ t ∈ ts, t.Proper) ∧ Leaf r ts leaf
  regular : n.Regular
  need : n.need ≤ bound

section

variable {r : Reader} {bound : ℕ}

theorem Reader.Shaped.mono {n : Node} (h : r.Shaped bound n) {bound' : ℕ} (hb : bound ≤ bound') :
    r.Shaped bound' n := ⟨h.leaves, h.regular, h.need.trans hb⟩

theorem Leaf.shaped {ts : List Token} {n : Node} (h : Leaf r ts n) (hproper : ∀ t ∈ ts, t.Proper) :
    r.Shaped 1 n := by
  have hself : ∀ leaf ∈ [n], ∃ us, (∀ t ∈ us, t.Proper) ∧ Leaf r us leaf := by
    intro leaf hl
    rw [List.mem_singleton.mp hl]
    exact ⟨ts, hproper, h⟩
  cases h <;> exact ⟨hself, trivial, Nat.le_refl 1⟩

theorem shaped_not {n : Node} (h : r.Shaped bound n) : r.Shaped (bound + 2) n.not := by
  have hwrap : n.isPlain = false → r.Shaped (bound + 2) (.expression .and true n []) := by
    intro hplain
    refine ⟨?_, ⟨h.regular, trivial, fun _ => ⟨rfl, rfl, hplain⟩⟩, ?_⟩
    · simpa [Node.leaves, leavesAll] using h.leaves
    · have := h.need
      simpa [Node.need, needAll] using this
  cases n with
  | expression op negated first nodes =>
    cases negated with
    | true => exact hwrap rfl
    | false =>
      obtain ⟨hfirst, hnodes, hone⟩ := h.regular
      refine ⟨h.leaves, ⟨hfirst, hnodes, fun he => ?_⟩, ?_⟩
      · exact absurd (hone he).2.1 (by decide)
      · have hneed := h.need
        simp only [Node.need, Bool.false_eq_true, if_false] at hneed
        simp only [Node.not, Node.need, if_true]
        omega
  | _ => exact hwrap rfl

theorem rootNeed_le (n : Node) : n.rootNeed ≤ n.need := by
  unfold Node.rootNeed
  split_ifs <;> omega

section

variable {op : Connective} {Item : List Token → Node → Prop} (hitem : ∀ us m, Item us m → r.Shaped bound m)

include hitem

theorem Further.shaped {ts : List Token} {nodes : List Node} (h : Further op Item ts nodes) :
    (∀ leaf ∈ leavesAll nodes, ∃ us, (∀ t ∈ us, t.Proper) ∧ Leaf r us leaf) ∧ RegularAll nodes ∧
      needAll nodes ≤ bound := by
  induction h with
  | nil => exact ⟨fun leaf hl => absurd hl List.not_mem_nil, trivial, Nat.zero_le bound⟩
  | cons h _ ih =>
    have hnode := hitem _ _ h
    refine ⟨?_, ⟨hnode.regular, ih.2.1⟩, ?_⟩
    · rw [leavesAll, List.forall_mem_append]
      exact ⟨hnode.leaves, ih.1⟩
    · rw [needAll]
      exact max_le hnode.need ih.2.2

/-- A chain takes one level more than its items, unless it stands at the root. -/
theorem Chain.shaped {ts : List Token} {n : Node} (h : Chain op Item ts n) :
    r.Shaped (bound + 1) n ∧ n.rootNeed ≤ bound := by
  cases h with
  | @of _ _ first nodes h h' =>
    have hfirst := hitem _ _ h
    obtain ⟨hleaves, hregular, hneed⟩ := h'.shaped hitem
    cases nodes with
    | nil => exact ⟨hfirst.mono (Nat.le_succ bound), (rootNeed_le first).trans hfirst.need⟩
    | cons node nodes =>
      have hmax : (joined op first (node :: nodes)).need ≤ bound + 1 := by
        rw [joined, Node.need]
        exact Nat.succ_le_succ (max_le hfirst.need hneed)
      refine ⟨⟨?_, ⟨hfirst.regular, hregular, fun he => absurd he (List.cons_ne_nil node nodes)⟩, hmax⟩,
        Nat.sub_le_of_le_add hmax⟩
      rw [joined, Node.leaves, List.forall_mem_append]
      exact ⟨hfirst.leaves, hleaves⟩

end

/-- Read from proper tokens, the tree is shaped with twice as many levels as the tokens are nested. -/
def Reader.ShapedFrom (r : Reader) (ts : List Token) (n : Node) : Prop :=
  (∀ t ∈ ts, t.Proper) → ∀ k, nesting ts ≤ k → r.Shaped (2 * k - 1) n

/-- A filter takes up to two levels more than its operands: a chain of conjunctions inside an
alternative takes a level of its own. -/
theorem filter_shaped {ts : List Token} {n : Node}
    (h : Chain .or (Chain .and fun us m => Unary r us m ∧ r.ShapedFrom us m) ts n) (hproper : ∀ t ∈ ts, t.Proper)
    {k : ℕ} (hk : nesting ts ≤ k) : r.Shaped (2 * k + 1) n ∧ n.rootNeed ≤ 2 * k := by
  have hpos := (one_le_nesting ts).trans hk
  have hbounded := (filter_bounded_iff fun us m hus => hus.1.nested).mpr ⟨h, hk⟩
  refine (hbounded.forall hproper).shaped fun us m ⟨hand, hus⟩ => ?_
  have hshaped := (hand.forall hus).shaped fun vs l ⟨⟨hl, hvs⟩, hproper'⟩ => hl.2 hproper' k hvs
  exact hshaped.1.mono (by omega)

/-- **Negations and groups keep the invariant.** -/
theorem Unary.shapedFrom {ts : List Token} {n : Node} (h : Unary r ts n) : r.ShapedFrom ts n := by
  refine Unary.induct (motive := r.ShapedFrom) ?not ?group ?leaf h
  case not =>
    intro ts n hunary ih hproper k hk
    rw [nesting_bang hunary.nestedBelow] at hk
    have hpos := one_le_nesting ts
    have hshaped := ih (List.forall_mem_cons.mp hproper).2 (k - 1) (by omega)
    exact (shaped_not hshaped).mono (by omega)
  case group =>
    intro ts n hchain hproper k hk
    have hnested := hchain.nested fun us m hand => hand.nested fun vs l hl => hl.1.nested
    rw [nesting_group hnested] at hk
    simp only [List.cons_append, List.forall_mem_cons, List.forall_mem_append] at hproper
    obtain ⟨hshaped, -⟩ := filter_shaped hchain hproper.2.1 (k := k - 1) (by omega)
    exact hshaped.mono (by omega)
  case leaf =>
    intro ts n hleaf hproper k hk
    have hpos := (one_le_nesting ts).trans hk
    exact (hleaf.shaped hproper).mono (by omega)

/-- A tree and the tree with a root expression have the same leaves. -/
theorem leaves_asExpression (n : Node) : n.asExpression.leaves = n.leaves := by
  cases n <;> simp [Node.asExpression, Node.leaves, leavesAll]

theorem read_shaped {text : String} {t : Node} (h : r.read text = .ok t) :
    ∃ n : Node, t = n.asExpression ∧ r.Shaped (2 * max r.maxDepth 1 + 1) n ∧ n.rootNeed ≤ 2 * max r.maxDepth 1 := by
  obtain ⟨ts, n, hlex, hlevel, hn, rfl⟩ := read_ok_iff.mp h
  have hitems := hn.mono fun us m hand => hand.mono fun vs l hl => And.intro hl hl.shapedFrom
  exact ⟨n, rfl, filter_shaped hitems (lex_proper hlex) hlevel⟩

/-- **What the reader gives**: a regular tree or a single leaf, of which every leaf that can be written
can be restated, and for which twice the levels are enough. -/
theorem read_sound {text : String} {t : Node} (h : r.read text = .ok t) :
    ∃ n : Node, t = n.asExpression ∧ (∀ leaf ∈ n.leaves, leaf.Writable → r.Restates leaf) ∧
      n.Regular ∧ n.rootNeed ≤ 2 * max r.maxDepth 1 := by
  obtain ⟨n, rfl, hshaped, hroot⟩ := read_shaped h
  refine ⟨n, rfl, fun leaf hl hw => ?_, hshaped.regular, hroot⟩
  obtain ⟨ts, hproper, hleaf⟩ := hshaped.leaves leaf hl
  exact hleaf.restates hproper hw

/-- Every leaf of a tree that was read can be written. -/
theorem read_names {text : String} {t : Node} (h : r.read text = .ok t) : ∀ leaf ∈ t.leaves, r.Names leaf := by
  obtain ⟨n, rfl, hshaped, -⟩ := read_shaped h
  rw [leaves_asExpression]
  intro leaf hl
  obtain ⟨ts, hproper, hleaf⟩ := hshaped.leaves leaf hl
  exact hleaf.names hproper

end

end LogQuery.Filter
