import LogQuery.Proofs.Filter.Positions

/-!
# Proofs.Filter.Levels — when the levels of the reader run out

* `TooDeep`: reading stopped at the limit on nesting. Only negations and groups can cause that.
* `UpTo`: two readings agree, unless the first one ran out of levels and says so. More levels change
  nothing else (`unary_upTo`, `read_upTo`).
* `lt_nesting_of_read`: where the levels run out, the tokens are nested more deeply than the limit.
* `read_limit_raised`: a text has one outcome, and a least limit from which on it is reached.
-/

namespace LogQuery.Filter

/-- Reading stopped at the limit on nesting. -/
def TooDeep {α : Type} (x : Except ReadError α) : Prop := ∃ limit position, x = .error (.tooDeep limit position)

/-- Reading stopped at this limit on nesting. -/
def StopsAt {α : Type} (limit : ℕ) (x : Except ReadError α) : Prop := ∃ position, x = .error (.tooDeep limit position)

/-- The outcomes are the same, unless the first reading stopped at its limit on nesting. -/
def UpTo {α : Type} (limit : ℕ) (x y : Except ReadError α) : Prop := StopsAt limit x ∨ x = y

section

variable {α β : Type} {x y : Except ReadError α} {limit : ℕ}

@[simp] theorem not_tooDeep_ok (a : α) : ¬ TooDeep (.ok a : Except ReadError α) := by
  rintro ⟨limit, position, h⟩
  exact nomatch h

@[simp] theorem tooDeep_error {e : ReadError} :
    TooDeep (.error e : Except ReadError α) ↔ ∃ limit position, e = .tooDeep limit position := by
  simp [TooDeep]

theorem tooDeep_map {f : α → β} : TooDeep (x.map f) ↔ TooDeep x := by
  cases x <;> simp [Except.map]

theorem tooDeep_bind {f : α → Except ReadError β} :
    TooDeep (x >>= f) ↔ TooDeep x ∨ ∃ a, x = .ok a ∧ TooDeep (f a) := by
  cases x <;> simp [bind, Except.bind]

theorem StopsAt.tooDeep (h : StopsAt limit x) : TooDeep x := ⟨limit, h⟩

theorem UpTo.refl (x : Except ReadError α) : UpTo limit x x := .inr rfl

theorem UpTo.map {f : α → β} (h : UpTo limit x y) : UpTo limit (x.map f) (y.map f) := by
  rcases h with ⟨position, rfl⟩ | rfl
  exacts [.inl ⟨position, rfl⟩, .inr rfl]

theorem UpTo.bind {f g : α → Except ReadError β} (h : UpTo limit x y) (hfg : ∀ a, UpTo limit (f a) (g a)) :
    UpTo limit (x >>= f) (y >>= g) := by
  rcases h with ⟨position, rfl⟩ | rfl
  · exact .inl ⟨position, rfl⟩
  · cases x with
    | error e => exact .inr rfl
    | ok a => exact hfg a

end

/-! ## Tokens and leaves take no level -/

theorem Fails.not_tooDeep {α : Type} {S : Set ℕ} {x : Except ReadError α} (h : Fails (·.In S) x) : ¬ TooDeep x := by
  rintro ⟨limit, position, heq⟩
  exact h _ heq

theorem not_tooDeep_lex (offset : ℕ) (cs : List Char) : ¬ TooDeep (lex offset cs) :=
  (lex_error offset cs).not_tooDeep

theorem within_univ (ts : List Located) : Within Set.univ ts := fun _ _ => Set.mem_univ _

theorem not_tooDeep_leaf {r : Reader} (ts : List Located) : ¬ TooDeep (r.leaf ts) :=
  (failsIn_leaf (within_univ ts)).not_tooDeep

theorem not_tooDeep_closeGroup (n : Node) (ts : List Located) : ¬ TooDeep (closeGroup n ts) :=
  (failsIn_closeGroup n (within_univ ts)).not_tooDeep

/-! ## More levels -/

section

variable {op : Connective} {item item' : Reading Node} {limit : ℕ}

theorem chainRest_upTo (h : ∀ ts, UpTo limit (item ts) (item' ts)) (fuel : ℕ) (ts : List Located) :
    UpTo limit (chainRest op item fuel ts) (chainRest op item' fuel ts) := by
  induction fuel generalizing ts with
  | zero => exact .refl _
  | succ fuel ih =>
    unfold chainRest
    split
    · split_ifs
      · exact (h _).bind fun p => (ih p.2).bind fun _ => .refl _
      · exact .refl _
    · exact .refl _

theorem chain_upTo (h : ∀ ts, UpTo limit (item ts) (item' ts)) (ts : List Located) :
    UpTo limit (chain op item ts) (chain op item' ts) :=
  (h ts).bind fun p => (chainRest_upTo h p.2.length p.2).bind fun _ => .refl _

theorem disjunction_upTo (h : ∀ ts, UpTo limit (item ts) (item' ts)) (ts : List Located) :
    UpTo limit (disjunction item ts) (disjunction item' ts) := chain_upTo (chain_upTo h) ts

end

section

variable {s s' : Scope}

/-- **More levels change nothing** but that the levels run out later. -/
theorem unary_upTo (hleaf : s.reader.leaf = s'.reader.leaf) {k k' : ℕ} (hk : k ≤ k') (ts : List Located) :
    UpTo s.limit (s.unary k ts) (s'.unary k' ts) := by
  induction k generalizing k' ts with
  | zero => exact .inl ⟨_, rfl⟩
  | succ k ih =>
    obtain ⟨k', rfl⟩ : ∃ l, k' = l + 1 := ⟨k' - 1, by omega⟩
    have hk' : k ≤ k' := Nat.le_of_succ_le_succ hk
    unfold Scope.unary
    split
    · exact (ih hk' _).map
    · exact (disjunction_upTo (ih hk') _).bind fun _ => .refl _
    · exact hleaf ▸ .refl _

theorem readAll_upTo (s s' : Scope) (hleaf : s.reader.leaf = s'.reader.leaf) (hlimit : s.limit ≤ s'.limit)
    (ts : List Located) : UpTo s.limit (s.readAll ts) (s'.readAll ts) :=
  (disjunction_upTo (unary_upTo hleaf hlimit) ts).bind fun _ => .refl _

end

/-- A text is read the same with a higher limit, unless reading stopped at the lower one. -/
theorem read_upTo_limit {catalog : Catalog} {registry : Option Registry} {d d' : ℕ} (h : d ≤ d') (text : String) :
    UpTo (max d 1) ((Reader.mk catalog registry d).read text) ((Reader.mk catalog registry d').read text) := by
  refine (UpTo.refl _).bind fun ts => ?_
  cases ts.getLast? with
  | none => exact .refl _
  | some last =>
    let scope := fun limit => Scope.mk ⟨catalog, registry, limit⟩ (max limit 1) last.position
    -- leaves are read without the limit
    exact readAll_upTo (scope d) (scope d') rfl (max_le_max_right 1 h) ts

/-- A text is read the same with a higher limit, unless the lower one is too low. -/
theorem read_upTo {catalog : Catalog} {registry : Option Registry} {d d' : ℕ} (h : d ≤ d') (text : String) :
    TooDeep ((Reader.mk catalog registry d).read text) ∨
      (Reader.mk catalog registry d).read text = (Reader.mk catalog registry d').read text :=
  (read_upTo_limit h text).imp_left StopsAt.tooDeep

/-! ## Where the levels run out -/

section

variable {op : Connective} {item : Reading Node} {Item : List Token → Node → Prop} {Follow : List Located → Prop}
  {levels : ℕ}

/-- Where the item runs out of levels, that many levels are taken below every group. -/
def RunsOut (item : Reading Node) (levels : ℕ) : Prop :=
  ∀ ts, TooDeep (item ts) → ∀ outer base, base + levels ≤ nestingFrom outer base base (tokensOf ts)

variable (hitem : RunsOut item levels) (hparses : Parses item Item Follow) (hnested : ∀ us n, Item us n → Nested us)

include hitem hparses hnested

theorem chainRest_runsOut {fuel : ℕ} {ts : List Located} (h : TooDeep (chainRest op item fuel ts)) :
    Ended (tokensOf ts) ∧ ∀ outer base, base + levels ≤ nestingFrom outer base base (tokensOf ts) := by
  induction fuel generalizing ts with
  | zero => exact absurd h (not_tooDeep_ok _)
  | succ fuel ih =>
    unfold chainRest at h
    split at h
    · rename_i op' position ts'
      split_ifs at h with hop
      · refine ⟨ended_connective op' _, fun outer base => ?_⟩
        rw [tokensOf_cons, nestingFrom]
        refine le_trans ?_ (le_max_right base _)
        rcases tooDeep_bind.mp h with hfirst | ⟨⟨n, ts₁⟩, hread, hmore⟩
        · exact hitem _ hfirst outer base
        · obtain ⟨us, rfl, hus⟩ := hparses.sound hread
          have hrest : TooDeep (chainRest op item fuel ts₁) := by
            refine (tooDeep_bind.mp hmore).resolve_right ?_
            rintro ⟨p, -, hp⟩
            exact not_tooDeep_ok _ hp
          obtain ⟨hended, hle⟩ := ih hrest
          have happend := hnested _ _ hus outer base _ hended
          have hdeep := hle outer base
          rw [tokensOf_append]
          omega
      · exact absurd h (not_tooDeep_ok _)
    · exact absurd h (not_tooDeep_ok _)

/-- A chain runs out of levels where one of its items does. -/
theorem chain_runsOut : RunsOut (chain op item) levels := by
  intro ts h outer base
  rcases tooDeep_bind.mp h with hfirst | ⟨⟨n, ts₁⟩, hread, hmore⟩
  · exact hitem ts hfirst outer base
  · obtain ⟨us, rfl, hus⟩ := hparses.sound hread
    have hrest : TooDeep (chainRest op item ts₁.length ts₁) := by
      refine (tooDeep_bind.mp hmore).resolve_right ?_
      rintro ⟨p, -, hp⟩
      dsimp only at hp
      split at hp <;> exact not_tooDeep_ok _ hp
    obtain ⟨hended, hle⟩ := chainRest_runsOut hitem hparses hnested hrest
    have happend := hnested _ _ hus outer base _ hended
    have hdeep := hle outer base
    rw [tokensOf_append]
    omega

end

theorem disjunction_runsOut {unary : Reading Node} {Item : List Token → Node → Prop} {levels : ℕ}
    (hunary : RunsOut unary levels) (hparses : Parses unary Item Bounded)
    (hnested : ∀ us n, Item us n → Nested us) : RunsOut (disjunction unary) levels :=
  chain_runsOut (chain_runsOut hunary hparses hnested) (conjunction_parses hparses)
    fun _ _ h => h.nested hnested

section

variable {s : Scope}

/-- Where an operand runs out of levels, that many levels are taken below its place. -/
theorem unary_runsOut {levels : ℕ} {ts : List Located} (h : TooDeep (s.unary levels ts)) (outer : List ℕ)
    (base level : ℕ) (hlevel : base ≤ level) :
    level + levels ≤ nestingFrom outer base level (tokensOf ts) := by
  induction levels generalizing ts outer base level with
  | zero => exact le_nestingFrom _
  | succ levels ih =>
    unfold Scope.unary at h
    split at h
    · have hdeep := ih (tooDeep_map.mp h) outer base (level + 1) (Nat.le_succ_of_le hlevel)
      rw [tokensOf_cons, nestingFrom]
      omega
    · rename_i position ts
      have hfilter := disjunction_runsOut (fun us hus outer base => ih hus outer base base (Nat.le_refl base))
        (unary_parses levels) fun us n hus => hus.1.nested
      have hbody : TooDeep (disjunction (s.unary levels) ts) := by
        refine (tooDeep_bind.mp h).resolve_right ?_
        rintro ⟨p, -, hp⟩
        exact not_tooDeep_closeGroup _ _ hp
      have hdeep := hfilter ts hbody (base :: outer) (level + 1)
      rw [tokensOf_cons, nestingFrom]
      omega
    · exact absurd h (not_tooDeep_leaf _)

/-- **The levels run out only in tokens that are nested more deeply than the limit.** -/
theorem lt_nesting_of_readAll {ts : List Located} (h : TooDeep (s.readAll ts)) :
    s.limit < nesting (tokensOf ts) := by
  have hfilter : RunsOut (disjunction (s.unary s.limit)) s.limit :=
    disjunction_runsOut (fun us hus outer base => unary_runsOut hus outer base base (Nat.le_refl base))
      (unary_parses s.limit) fun us n hus => hus.1.nested
  have hread : TooDeep (disjunction (s.unary s.limit) ts) := by
    refine (tooDeep_bind.mp h).resolve_right ?_
    rintro ⟨p, -, hp⟩
    dsimp only at hp
    split at hp
    · exact not_tooDeep_ok _ hp
    · simp at hp
  have hdeep := hfilter ts hread [] 1
  have hone : nesting (tokensOf ts) = nestingFrom [] 1 1 (tokensOf ts) := rfl
  omega

theorem lt_nesting_of_read {r : Reader} {text : String} {ts : List Located} (hlex : lex 0 text.toList = .ok ts)
    (h : TooDeep (r.read text)) : max r.maxDepth 1 < nesting (tokensOf ts) := by
  simp only [Reader.read, hlex, bind, Except.bind] at h
  cases hlast : ts.getLast? with
  | none => simp [hlast] at h
  | some last =>
    simp only [hlast] at h
    exact lt_nesting_of_readAll h

end

/-! ## The least limit of a text -/

/-- **A higher limit changes no outcome but that the limit was met.** A filter that is read, and an error
other than that of the limit, with all that it says, stay the same with every higher limit. More than
that, each text has one outcome of its own, and a least limit from which on it is reached; every lower
limit is met, and named as it is. -/
theorem read_limit_raised (catalog : Catalog) (registry : Option Registry) (text : String) :
    let read := fun limit => (Reader.mk catalog registry limit).read text
    (∀ d d', 1 ≤ d → d ≤ d' →
      (∀ t, read d = .ok t → read d' = .ok t) ∧
      ∀ e, read d = .error e → (∀ limit position, e ≠ .tooDeep limit position) → read d' = .error e) ∧
    ∃ least outcome, ¬ TooDeep outcome ∧
      ∀ d, 1 ≤ d → (least ≤ d → read d = outcome) ∧ (d < least → StopsAt d (read d)) := by
  intro read
  have hraise : ∀ {d d'}, d ≤ d' → ¬ TooDeep (read d) → read d' = read d := fun h hd =>
    ((read_upTo h text).resolve_left hd).symm
  refine ⟨fun d d' _ h => ⟨fun t ht => ?_, fun e he hne => ?_⟩, ?_⟩
  · exact (hraise h (by rw [ht]; exact not_tooDeep_ok t)).trans ht
  · have hdeep : ¬ TooDeep (read d) := by
      rw [he, tooDeep_error]
      rintro ⟨limit, position, rfl⟩
      exact hne limit position rfl
    exact (hraise h hdeep).trans he
  · classical
    -- some limit is high enough: the nesting of the tokens, if the text has tokens at all
    obtain ⟨high, hhigh⟩ : ∃ high, ¬ TooDeep (read high) := by
      cases hlex : lex 0 text.toList with
      | error e =>
        refine ⟨0, ?_⟩
        have herror := not_tooDeep_lex 0 text.toList
        simp only [read, Reader.read, hlex, bind, Except.bind]
        rwa [hlex, tooDeep_error, ← tooDeep_error (α := Node)] at herror
      | ok ts =>
        refine ⟨nesting (tokensOf ts), fun hdeep => ?_⟩
        exact absurd (lt_nesting_of_read hlex hdeep) (Nat.not_lt.mpr (le_max_left _ _))
    have hexists : ∃ least, ¬ TooDeep (read least) := ⟨high, hhigh⟩
    refine ⟨Nat.find hexists, read (Nat.find hexists), Nat.find_spec hexists, fun d hd => ⟨fun h => ?_, fun h => ?_⟩⟩
    · exact hraise h (Nat.find_spec hexists)
    · have hdeep : TooDeep (read d) := not_not.mp (Nat.find_min hexists h)
      have hstops : StopsAt (max d 1) (read d) := (read_upTo_limit h.le text).resolve_right fun heq =>
        Nat.find_spec hexists ((congrArg TooDeep heq).mp hdeep)
      rwa [max_eq_left hd] at hstops

/-- The error for a comma where a group has to end. -/
def brokenGroup : ReadError := .unexpected "','" .rightParen 6

/-- A negated group is read alike with four levels and with seven; a broken group is the same error with two
levels and with five. -/
theorem read_limit_raised_groups :
    let read := fun limit => (Reader.mk (fun _ => none) none limit).read
    (1 ≤ 4 ∧ 4 ≤ 7 ∧ ∃ t, read 4 "!(('boot') && #slow)" = .ok t ∧ read 7 "!(('boot') && #slow)" = .ok t) ∧
    (1 ≤ 2 ∧ 2 ≤ 5 ∧ read 2 "(#slow, 'boot')" = .error brokenGroup ∧
      (∀ limit position, brokenGroup ≠ .tooDeep limit position) ∧ read 5 "(#slow, 'boot')" = .error brokenGroup) := by
  have hread : (Reader.mk (fun _ => none) none 4).read "!(('boot') && #slow)" =
      .ok (.expression .and true (.search "boot") [.alias "slow"]) := by cbv
  have herror : (Reader.mk (fun _ => none) none 2).read "(#slow, 'boot')" = .error brokenGroup := by cbv
  have hne : ∀ limit position, brokenGroup ≠ .tooDeep limit position := fun _ _ => ReadError.noConfusion
  exact ⟨⟨by decide, by decide, _, hread,
      ((read_limit_raised _ _ _).1 4 7 (by decide) (by decide)).1 _ hread⟩,
    by decide, by decide, herror, hne,
      ((read_limit_raised _ _ _).1 2 5 (by decide) (by decide)).2 brokenGroup herror hne⟩

end LogQuery.Filter
