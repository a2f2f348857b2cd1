import LogQuery.Proofs.Filter.Offsets
import LogQuery.Proofs.Filter.Parsing

/-!
# Proofs.Filter.Positions — the positions that errors name

After the tokens are there, every error of the reader that names a position names that of a token: of the one at
hand, of one that it remembers, or of the last one where there is none left. What is read next is always the end of
what was given, so no position comes from elsewhere.

* `failsIn_leaf`, `unary_readsAt`: where errors stand. One lemma for each function of the reader.
* `chainRest_fuel`: the bound on the items of a chain is never met.
* `read_positions`: where tokens and errors stand in any text.
-/

namespace LogQuery.Filter

/-- The tokens stand at some of these positions. -/
def Within (S : Set ℕ) (ts : List Located) : Prop := ∀ t ∈ ts, t.position ∈ S

section

variable {S : Set ℕ}

theorem Within.append_right {us ts : List Located} (h : Within S (us ++ ts)) : Within S ts :=
  fun t ht => h t (List.mem_append_right _ ht)

theorem Within.cons {t : Located} {ts : List Located} (h : Within S (t :: ts)) : t.position ∈ S ∧ Within S ts :=
  ⟨h t List.mem_cons_self, fun u hu => h u (List.mem_cons_of_mem _ hu)⟩

end

/-! ## Comparisons -/

section

variable {S : Set ℕ}

theorem failsIn_patternOf (source : String) : Fails (·.In S) (patternOf source) := by
  unfold patternOf
  split
  exacts [fails_ok _, fails_error.mpr trivial]

theorem failsIn_typeLiteral (f : FieldRef) (op : Comparator) (l : Literal) : Fails (·.In S) (typeLiteral f op l) := by
  unfold typeLiteral
  split
  · split_ifs
    · exact failsIn_patternOf _
    · split
      exacts [fails_ok _, fails_error.mpr trivial]
    · exact fails_ok _
  · exact fails_ok _

theorem failsIn_typeSides (left : Operand) (op : Comparator) (right : Operand) {position : ℕ} (h : position ∈ S) :
    Fails (·.In S) (typeSides left op right position) := by
  unfold typeSides
  split
  · exact fails_error.mpr h
  · exact (failsIn_typeLiteral _ _ _).map
  · exact (failsIn_typeLiteral _ _ _).map
  · exact fails_ok _

theorem failsIn_comparisonOf (left : Operand) (op : Comparator) (right : Operand) {position : ℕ} (h : position ∈ S) :
    Fails (·.In S) (comparisonOf left op right position) := by
  have hpattern : ∀ left right, Fails (·.In S) (checkPattern left op right) := by
    intro left right
    unfold checkPattern
    split_ifs
    exacts [fails_ok _, fails_error.mpr trivial, fails_ok _]
  have hordering : ∀ left right, Fails (·.In S) (checkOrdering left op right) := by
    intro left right
    unfold checkOrdering
    split
    · split_ifs
      exacts [fails_error.mpr trivial, fails_ok _]
    · exact fails_ok _
  exact (failsIn_typeSides left op right h).bind fun _ _ => (hpattern _ _).bind fun _ _ =>
    (hordering _ _).bind fun _ _ => fails_ok _

theorem failsIn_setMembers {start : ℕ} (hstart : start ∈ S) {ts : List Located} (hts : Within S ts) :
    Fails (·.In S) (setMembers start ts) := by
  fun_induction setMembers start ts with
  | case1 => exact fails_error.mpr hstart
  | case2 => exact fails_error.mpr hts.cons.1
  | case3 => exact fails_error.mpr hstart
  | case4 => exact fails_ok _
  | case5 _ _ _ _ _ _ ih => exact (ih hts.cons.2.cons.2).map
  | case6 => exact fails_error.mpr hts.cons.2.cons.1

theorem failsIn_comparator {ts : List Located} (hts : Within S ts) : Fails (·.In S) (comparator ts) := by
  unfold comparator
  split
  · exact fails_ok _
  · exact fails_error.mpr hts.cons.1
  · exact fails_error.mpr trivial

variable {r : Reader}

theorem failsIn_nameOperand (name : String) : Fails (·.In S) (r.nameOperand name) := by
  unfold Reader.nameOperand
  split
  · exact fails_ok _
  · split_ifs
    exacts [fails_ok _, fails_ok _, fails_error.mpr trivial]

theorem failsIn_operand {t : Located} {ts : List Located} (hts : Within S (t :: ts)) :
    Fails (·.In S) (r.operand t ts) := by
  have hset : Fails (·.In S) (setLiteral t.position ts) := by
    unfold setLiteral
    split
    · exact fails_ok _
    · exact (failsIn_setMembers hts.cons.1 hts.cons.2).map
  unfold Reader.operand
  split
  · exact (failsIn_nameOperand _).map
  · exact fails_ok _
  · exact (failsIn_patternOf _).map
  · exact fails_ok _
  · exact fails_ok _
  · exact hset.map
  · exact fails_error.mpr hts.cons.1

theorem Within.operand {t : Located} {ts rest : List Located} {o : Operand} (hts : Within S (t :: ts))
    (h : r.operand t ts = .ok (o, rest)) : Within S rest := by
  obtain ⟨us, hus, -⟩ := operand_sound h
  rw [hus] at hts
  exact hts.append_right

theorem failsIn_comparison {t : Located} {ts : List Located} (hts : Within S (t :: ts)) :
    Fails (·.In S) (r.comparison t ts) := by
  refine (failsIn_operand hts).bind fun ⟨left, ts₁⟩ hleft => ?_
  have hts₁ : Within S ts₁ := hts.operand hleft
  refine (failsIn_comparator hts₁).bind fun ⟨⟨op, position⟩, ts₂⟩ hop => ?_
  rw [comparator_ok hop] at hts₁
  obtain ⟨hposition, hts₂⟩ := hts₁.cons
  cases ts₂ with
  | nil => exact fails_error.mpr trivial
  | cons u ts₂ =>
    refine (failsIn_operand hts₂).bind fun right _ => ?_
    exact (failsIn_comparisonOf left op right.1 hposition).bind fun _ _ => fails_ok _

theorem failsIn_bareName (name : String) {ts : List Located} (hts : Within S ts) :
    Fails (·.In S) (r.bareName name ts) := by
  unfold Reader.bareName
  split
  · exact fails_ok _
  · split
    · exact fails_error.mpr hts.cons.1
    · exact fails_error.mpr trivial
  · split_ifs
    exacts [fails_ok _, fails_error.mpr trivial]

theorem failsIn_leaf {ts : List Located} (hts : Within S ts) : Fails (·.In S) (r.leaf ts) := by
  unfold Reader.leaf
  split
  · exact fails_error.mpr trivial
  · split
    · exact fails_ok _
    · exact fails_ok _
    · exact failsIn_bareName _ hts.cons.2
    · exact failsIn_comparison hts

end

/-! ## Chains, negations and groups -/

section

variable {S : Set ℕ} {op : Connective} {item : Reading Node} {Item : List Token → Node → Prop}
  {Follow : List Located → Prop}

/-- What is read from these tokens fails at their positions. -/
def ReadsAt (S : Set ℕ) (item : Reading Node) : Prop := ∀ ts, Within S ts → Fails (·.At S) (item ts)

theorem Parses.within (hparses : Parses item Item Follow) {ts rest : List Located} {n : Node} (hts : Within S ts)
    (h : item ts = .ok (n, rest)) : Within S rest := by
  obtain ⟨us, rfl, -⟩ := hparses.sound h
  exact hts.append_right

theorem chainRest_failsAt (hparses : Parses item Item Follow) (hitem : ReadsAt S item) (fuel : ℕ) {ts : List Located}
    (hts : Within S ts) : Fails (·.At S) (chainRest op item fuel ts) := by
  induction fuel generalizing ts with
  | zero => exact fails_ok _
  | succ fuel ih =>
    unfold chainRest
    split
    · split_ifs
      · refine (hitem _ hts.cons.2).bind fun ⟨n, rest⟩ hread => ?_
        exact (ih (hparses.within hts.cons.2 hread)).bind fun _ _ => fails_ok _
      · exact fails_ok _
    · exact fails_ok _

theorem chain_readsAt (hparses : Parses item Item Follow) (hitem : ReadsAt S item) : ReadsAt S (chain op item) := by
  intro ts hts
  refine (hitem ts hts).bind fun ⟨first, ts₁⟩ hread => ?_
  refine (chainRest_failsAt hparses hitem _ (hparses.within hts hread)).bind fun ⟨rest, ts₂⟩ _ => ?_
  cases rest <;> exact fails_ok _

theorem disjunction_readsAt {unary : Reading Node} (hparses : Parses unary Item Bounded) (hunary : ReadsAt S unary) :
    ReadsAt S (disjunction unary) :=
  chain_readsAt (conjunction_parses hparses) (chain_readsAt hparses hunary)

theorem failsIn_closeGroup (n : Node) {ts : List Located} (hts : Within S ts) :
    Fails (·.In S) (closeGroup n ts) := by
  unfold closeGroup
  split
  · exact fails_ok _
  · exact fails_error.mpr hts.cons.1
  · exact fails_error.mpr trivial

variable {s : Scope}

/-- **What is read of an operand fails at its tokens**, or at the last one of the text. -/
theorem unary_readsAt (hlast : s.lastPosition ∈ S) (levels : ℕ) : ReadsAt S (s.unary levels) := by
  induction levels with
  | zero =>
    intro ts hts
    have hposition : s.position ts ∈ S := by
      cases ts with
      | nil => exact hlast
      | cons t ts => exact hts.cons.1
    exact fails_error.mpr fun _ h => Option.some.inj h ▸ hposition
  | succ levels ih =>
    intro ts hts
    unfold Scope.unary
    split
    · exact (ih _ hts.cons.2).map
    · have hbody := disjunction_readsAt (unary_parses levels) ih
      refine (hbody _ hts.cons.2).bind fun ⟨n, rest⟩ hread => ?_
      have hrest := (disjunction_parses (unary_parses levels)).within hts.cons.2 hread
      exact (failsIn_closeGroup n hrest).mono fun _ => ReadError.In.at
    · exact (failsIn_leaf hts).mono fun _ => ReadError.In.at

theorem readAll_failsAt (hlast : s.lastPosition ∈ S) {ts : List Located} (hts : Within S ts) :
    Fails (·.At S) (s.readAll ts) := by
  have hread := disjunction_readsAt (unary_parses s.limit) (unary_readsAt hlast s.limit)
  refine (hread ts hts).bind fun ⟨n, rest⟩ hrest => ?_
  have hwithin := (disjunction_parses (unary_parses s.limit)).within hts hrest
  cases rest with
  | nil => exact fails_ok _
  | cons t rest => exact fails_error.mpr (ReadError.In.at hwithin.cons.1)

/-- Each item of a chain takes a token, so their number never meets the bound. -/
theorem chainRest_fuel (hparses : Parses item Item Follow) {fuel fuel' : ℕ} {ts : List Located}
    (h : ts.length ≤ fuel) (h' : ts.length ≤ fuel') : chainRest op item fuel ts = chainRest op item fuel' ts := by
  have hnil : ∀ fuel, chainRest op item fuel [] = .ok ([], []) := fun fuel => by cases fuel <;> rfl
  induction fuel generalizing fuel' ts with
  | zero =>
    obtain rfl := List.length_eq_zero_iff.mp (Nat.le_zero.mp h)
    rw [hnil, hnil]
  | succ fuel ih =>
    cases fuel' with
    | zero =>
      obtain rfl := List.length_eq_zero_iff.mp (Nat.le_zero.mp h')
      rw [hnil, hnil]
    | succ fuel' =>
      unfold chainRest
      split
      · rename_i op' position rest
        split_ifs
        · cases hread : item rest with
          | error err => rfl
          | ok a =>
            obtain ⟨us, rfl, -⟩ := hparses.sound hread
            rw [List.length_cons, List.length_append] at h h'
            have hmore : chainRest op item fuel a.2 = chainRest op item fuel' a.2 := ih (by omega) (by omega)
            simp only [bind, Except.bind, hmore]
        · rfl
      · rfl

end

/-! ## Texts -/

/-- An error of the reader is that of the lexer, or stands at a token. -/
theorem read_failsAt {r : Reader} {text : String} {ts : List Located} (hlex : lex 0 text.toList = .ok ts) :
    Fails (·.At {position | position ∈ ts.map Located.position}) (r.read text) := by
  have hwithin : ∀ t ∈ ts, t.position ∈ ts.map Located.position := fun t ht => List.mem_map_of_mem ht
  simp only [Reader.read, hlex, bind, Except.bind]
  cases hlast : ts.getLast? with
  | none => exact fails_error.mpr (ReadError.In.at trivial)
  | some last => exact readAll_failsAt (hwithin last (List.mem_of_getLast? hlast)) hwithin

theorem read_of_lex_error {r : Reader} {text : String} {err : ReadError} (hlex : lex 0 text.toList = .error err) :
    r.read text = .error err := by
  simp only [Reader.read, hlex, bind, Except.bind]

/-- **Reading ends, and every position is that of a character.** The tokens of a text stand at increasing offsets,
each with a character that is no blank, and names, words and numbers are parts of the text between characters. An
error names the offset of a character of the text, once there are tokens that of a token. No chain is cut off by
the bound on its items. -/
theorem read_positions (r : Reader) (text : String) :
    (∀ ts, lex 0 text.toList = .ok ts →
      (ts.map Located.position).Pairwise (· < ·) ∧
      (∀ t ∈ ts, ∃ c cs, Slice text (String.ofList (c :: cs)) t.position ∧ Text.isBlank c = false ∧ Cut c cs t.token) ∧
      ∀ err position, r.read text = .error err → err.position? = some position →
        position ∈ ts.map Located.position) ∧
    (∀ err, lex 0 text.toList = .error err → r.read text = .error err ∧
      ∀ part, err = .invalidNumber part → ∃ position, Slice text part position) ∧
    (∀ err position, r.read text = .error err → err.position? = some position →
      position < text.utf8ByteSize ∧ ∃ c, Slice text (String.singleton c) position) ∧
    ∀ (s : Scope) (levels : ℕ) (op : Connective) (fuel : ℕ) (ts : List Located), ts.length ≤ fuel →
      chainRest op (s.unary levels) fuel ts = chainRest op (s.unary levels) ts.length ts ∧
      chainRest op (chain .and (s.unary levels)) fuel ts = chainRest op (chain .and (s.unary levels)) ts.length ts := by
  have htokens : ∀ {ts}, lex 0 text.toList = .ok ts → ∀ t ∈ ts, ∃ c cs,
      Slice text (String.ofList (c :: cs)) t.position ∧ Text.isBlank c = false ∧ Cut c cs t.token := by
    intro ts hlex t ht
    obtain ⟨c, cs, hholds, hrest⟩ := (lex_ok hlex).2 t ht
    exact ⟨c, cs, slice_of_holds hholds, hrest⟩
  refine ⟨fun ts hlex => ⟨(lex_ok hlex).1, htokens hlex, fun err position herr => read_failsAt hlex err herr position⟩,
    fun err hlex => ⟨read_of_lex_error hlex, fun part hpart => ?_⟩, fun err position herr hposition => ?_,
    fun s levels op fuel ts hfuel => ?_⟩
  · obtain ⟨position, hholds⟩ := lex_number 0 text.toList err hlex part hpart
    have hslice := slice_of_holds hholds
    rw [String.ofList_toList] at hslice
    exact ⟨position, hslice⟩
  · obtain ⟨c, hc⟩ : ∃ c, Slice text (String.singleton c) position := by
      cases hlex : lex 0 text.toList with
      | error err' =>
        obtain rfl := Except.error.inj ((read_of_lex_error hlex).symm.trans herr)
        obtain ⟨c, hholds⟩ := (lex_error 0 text.toList err' hlex).at position hposition
        exact ⟨c, slice_of_holds hholds⟩
      | ok ts =>
        obtain ⟨t, ht, rfl⟩ := List.mem_map.mp (read_failsAt hlex err herr position hposition)
        obtain ⟨c, cs, hslice, -⟩ := htokens hlex t ht
        exact ⟨c, hslice.first⟩
    exact ⟨hc.lt, c, hc⟩
  · have hunary := unary_parses (s := s) levels
    exact ⟨chainRest_fuel hunary hfuel le_rfl, chainRest_fuel (conjunction_parses hunary) hfuel le_rfl⟩

/-- Behind a quoted letter of two bytes there is a token too many; and an escape behind such a letter is none. -/
theorem read_positions_accented :
    let r := Reader.mk (fun _ => none) none 64
    (lex 0 "'é' #x 'ü'".toList = .ok [⟨.text "é", 0⟩, ⟨.alias "x", 5⟩, ⟨.text "ü", 8⟩] ∧
      r.read "'é' #x 'ü'" = .error (.unexpected "'#x'" .connectiveOrEnd 5) ∧ 5 ∈ [0, 5, 8] ∧
      5 < "'é' #x 'ü'".utf8ByteSize ∧ ∃ c, Slice "'é' #x 'ü'" (String.singleton c) 5) ∧
    r.read "'é\\q'" = .error (.invalidEscape "q" 3) ∧ 3 < "'é\\q'".utf8ByteSize ∧
      ∃ c, Slice "'é\\q'" (String.singleton c) 3 := by
  intro r
  have hlex : lex 0 "'é' #x 'ü'".toList = .ok [⟨.text "é", 0⟩, ⟨.alias "x", 5⟩, ⟨.text "ü", 8⟩] := by cbv
  have hread : r.read "'é' #x 'ü'" = .error (.unexpected "'#x'" .connectiveOrEnd 5) := by cbv
  have hescape : r.read "'é\\q'" = .error (.invalidEscape "q" 3) := by cbv
  have htokens := (read_positions r "'é' #x 'ü'").1 _ hlex
  exact ⟨⟨hlex, hread, htokens.2.2 _ 5 hread rfl, (read_positions r _).2.2.1 _ 5 hread rfl⟩, hescape,
    (read_positions r _).2.2.1 _ 3 hescape rfl⟩

end LogQuery.Filter
