import LogQuery.Proofs.Filter.WellFormed

/-!
# Proofs.Filter.EvaluationDepth — the limit that an evaluation needs

The reader counts negations and groups, the evaluator counts the levels of the tree. The two differ: the
root takes a level, a conjunction inside an alternative takes one, and so does every leaf. A filter that
is read with `d` levels can be evaluated with `2 * d + 1` levels, and not with fewer for every filter.

* `Node.spine`: the levels on the way along the first parts, which evaluation always follows.
* `staircase`: filters whose conjunctions stand first in an alternative, group in group.
* `evaluate_withLimit_eq`: a higher limit changes nothing where the lower one was not met.
* `evaluate_settled_of_read`: the limit that evaluation needs, and that no lower one is enough.
* `evaluate_exceeds_limit`: a limit that admits a filter need not be enough for its evaluation.
-/

namespace LogQuery.Filter

/-! ## A higher limit -/

/-- **A higher limit changes nothing where the lower one was not met**: the verdict, the errors and their
order stay as they are. Saved filters may be missing or refer to themselves in a circle. -/
theorem evaluate_withLimit_eq {ρ : Type} (e : Evaluator ρ) (record : ρ) (n : Node) {d d' : ℕ} (hle : d ≤ d')
    (hs : Settled ((e.withLimit d).evaluate n record).2.errors) :
    (e.withLimit d').evaluate n record = (e.withLimit d).evaluate n record := by
  have hlimit : (e.withLimit d).limit ≤ (e.withLimit d').limit := max_le_max_right 1 hle
  obtain ⟨hsettled, -, -⟩ := evaluate_of_settled _ _ hs
  have houtcome := outcome_repeats (e.withLimit d) record slack_eq d' hlimit [] [] n rfl hsettled
  rw [evaluate_eq_outcome, evaluate_eq_outcome]
  exact congrArg (fun o : Outcome => (o.1, ({} : Context).addErrors o.2)) houtcome

/-- An evaluator with one saved filter, which refers to itself and to a filter that is missing. -/
def circular : Evaluator String where
  resolver := ⟨fun _ _ => none, id⟩
  registry := ⟨[("loop", .named "loop" (.expression .or false (.alias "Loop") [.alias "gone", .search "boot"]))]⟩

theorem evaluate_withLimit_circular :
    3 ≤ 64 ∧ ((circular.withLimit 3).evaluate (.alias "LOOP") "Booting").2.errors =
        [.cyclicAlias ["loop", "loop"], .aliasNotFound "gone"] ∧
      (circular.withLimit 64).evaluate (.alias "LOOP") "Booting" =
        (circular.withLimit 3).evaluate (.alias "LOOP") "Booting" := by
  have herrors : ((circular.withLimit 3).evaluate (.alias "LOOP") "Booting").2.errors =
      [.cyclicAlias ["loop", "loop"], .aliasNotFound "gone"] := by cbv
  have hs : Settled ((circular.withLimit 3).evaluate (.alias "LOOP") "Booting").2.errors := by
    rw [herrors]
    simp [Settled, EvalError.isDepth]
  exact ⟨by decide, herrors, evaluate_withLimit_eq circular "Booting" (.alias "LOOP") (by decide) hs⟩

/-! ## The limit is met along the first parts -/

/-- The number of levels along the first parts. -/
def Node.spine : Node → ℕ
  | .expression _ _ first _ => first.spine + 1
  | _ => 1

section

variable {ρ : Type} (e : Evaluator ρ) (record : ρ)

/-- The first part of an expression is judged in any case, so that its levels count on every record. -/
theorem mem_outcome_of_lt_spine (levels : ℕ) (trail : List String) {n : Node} (h : levels < n.spine) :
    .depthExceeded e.limit ∈ (outcome e record levels trail n).2 := by
  induction levels generalizing n with
  | zero => exact List.mem_cons_self
  | succ levels ih =>
    cases n with
    | expression op negated first rest =>
      have hfirst : levels < first.spine := Nat.succ_lt_succ_iff.mp h
      exact List.mem_append_left _ (ih hfirst)
    | _ => exact absurd h (by simp [Node.spine])

/-- A limit below the levels along the first parts is reported on every record. -/
theorem mem_evaluate_of_lt_spine {n : Node} (halone : n.Standalone) (h : e.limit < n.spine) :
    .depthExceeded e.limit ∈ (e.evaluate n record).2.errors := by
  have hany : (outcome e record e.limit [] n).2.any EvalError.isDepth = true :=
    List.any_eq_true.mpr ⟨_, mem_outcome_of_lt_spine e record e.limit [] h, rfl⟩
  rw [← limitOnce_any, ← evaluate_errors] at hany
  obtain ⟨err, herr, hdepth⟩ := List.any_eq_true.mp hany
  cases evaluate_local e record halone herr with
  | depth => exact herr
  | field => exact Bool.noConfusion hdepth
  | comparison _ _ _ hcompare =>
    obtain ⟨reason, rfl⟩ := compare_mismatch _ _ _ _ hcompare
    exact Bool.noConfusion hdepth

end

/-! ## Staircases -/

/-- An operand, followed by a conjunction and an alternative. -/
def stepTokens (ts : List Token) : List Token :=
  ts ++ [.connective .and, .text "x", .connective .or, .text "x"]

/-- The characters of an operand, followed by a conjunction and an alternative. -/
def stepChars (cs : List Char) : List Char :=
  cs ++ (' ' :: (Connective.and.label.toList ++ ' ' :: (quoted "x" ++
    ' ' :: (Connective.or.label.toList ++ ' ' :: quoted "x"))))

/-- An alternative that begins with a conjunction, which begins with the filter. -/
def Node.step (n : Node) : Node :=
  .expression .or false (.expression .and false n [.search "x"]) [.search "x"]

/-- Steps around a search for a text. -/
def staircase : ℕ → Node
  | 0 => .search "x"
  | k + 1 => (staircase k).step

/-- The tokens of a staircase that is an operand: each step is a group. -/
def staircaseTokens : ℕ → List Token
  | 0 => [.text "x"]
  | k + 1 => .leftParen :: stepTokens (staircaseTokens k) ++ [.rightParen]

/-- The characters of a staircase that is an operand. -/
def staircaseChars : ℕ → List Char
  | 0 => quoted "x"
  | k + 1 => '(' :: (stepChars (staircaseChars k) ++ [')'])

theorem staircase_spine (k : ℕ) : (staircase k).spine = 2 * k + 1 := by
  induction k with
  | zero => rfl
  | succ k ih =>
    show (staircase k).spine + 1 + 1 = 2 * (k + 1) + 1
    omega

theorem staircase_standalone (k : ℕ) : (staircase k).Standalone := by
  have hsearch : ∀ term, (Node.search term).Standalone := fun term => by
    constructor <;> simp [Node.parts]
  induction k with
  | zero => exact hsearch "x"
  | succ k ih =>
    constructor
    · intro name
      simpa [staircase, Node.step, Node.parts, partsAll] using ih.part name
    · intro c hc
      exact ih.side c (by simpa [staircase, Node.step, Node.parts, partsAll] using hc)

section

variable {ts : List Token} {cs : List Char}

theorem lexes_step (h : ∀ rest, Lexes (cs ++ rest) ts rest) (rest : List Char) :
    Lexes (stepChars cs ++ rest) (stepTokens ts) rest := by
  have hitem : ∀ (op : Connective) (rest : List Char),
      Lexes (' ' :: (op.label.toList ++ ' ' :: (quoted "x" ++ rest))) [.connective op, .text "x"] rest :=
    fun op rest =>
      (lexes_blank _).append ((lexes_connective op _).append ((lexes_blank _).append (lexes_quoted "x" rest)))
  simp only [stepChars, List.append_assoc, List.cons_append]
  exact (h _).append ((hitem .and _).append (hitem .or rest))

theorem derives_step {r : Reader} {n : Node} (h : Unary r ts n) : Derives r (stepTokens ts) n.step := by
  have hx : Unary r [.text "x"] (.search "x") := .leaf (.search "x")
  have hconjunction : Chain .and (Unary r) (ts ++ [.connective .and, .text "x"])
      (.expression .and false n [.search "x"]) := .of h (.cons hx .nil)
  have halternative : Derives r ((ts ++ [.connective .and, .text "x"]) ++ [.connective .or, .text "x"]) n.step :=
    .of hconjunction (.cons (.single hx) .nil)
  rwa [List.append_assoc] at halternative

theorem nesting_step (h : NestedBelow ts) : Nested (stepTokens ts) ∧ nesting (stepTokens ts) = nesting ts := by
  have hx : NestedBelow [.text "x"] := nestedBelow_flat (by simp [Token.isFlat])
  have htail := (hx.nested.connective .and).append (hx.nested.connective .or) (ended_connective .or _)
  have hone : nesting [.connective .and, .text "x", .connective .or, .text "x"] = 1 := by decide
  refine ⟨h.nested.append htail (ended_connective .and _), ?_⟩
  rw [stepTokens, nesting_append h.nested (ended_connective .and _), hone]
  exact max_eq_left (one_le_nesting ts)

end

theorem lexes_staircase (k : ℕ) : ∀ rest, Lexes (staircaseChars k ++ rest) (staircaseTokens k) rest := by
  induction k with
  | zero => exact lexes_quoted "x"
  | succ k ih =>
    intro rest
    have hbody := lexes_step ih (')' :: rest)
    simp only [staircaseChars, List.cons_append, List.append_assoc, List.nil_append]
    exact (lexes_leftParen _).append (hbody.append (lexes_rightParen rest))

theorem unary_staircase (r : Reader) (k : ℕ) : Unary r (staircaseTokens k) (staircase k) := by
  induction k with
  | zero => exact .leaf (.search "x")
  | succ k ih => exact .group (derives_step ih)

theorem nesting_staircase (k : ℕ) : NestedBelow (staircaseTokens k) ∧ nesting (staircaseTokens k) = k + 1 := by
  induction k with
  | zero => exact ⟨nestedBelow_flat (by simp [staircaseTokens, Token.isFlat]), rfl⟩
  | succ k ih =>
    obtain ⟨hbody, hnesting⟩ := nesting_step ih.1
    refine ⟨hbody.group, ?_⟩
    rw [staircaseTokens, nesting_group hbody, hnesting, ih.2]

/-- A staircase of `d` steps is read with `d` levels: the outermost step is no group. -/
theorem exists_read_staircase (catalog : Catalog) (registry : Option Registry) {d : ℕ} (hd : 1 ≤ d) :
    ∃ text, (Reader.mk catalog registry d).read text = .ok (staircase d) := by
  obtain ⟨k, rfl⟩ : ∃ k, d = k + 1 := ⟨d - 1, by omega⟩
  have hlex := lexes_step (lexes_staircase k) []
  rw [List.append_nil] at hlex
  obtain ⟨located, htokens, hlocated⟩ := hlex.ok 0
  refine ⟨String.ofList (stepChars (staircaseChars k)), read_ok_iff.mpr ⟨located, staircase (k + 1), ?_, ?_, ?_, rfl⟩⟩
  · rw [String.toList_ofList, hlocated]
  · obtain ⟨hbelow, hnesting⟩ := nesting_staircase k
    rw [tokensOf, htokens, (nesting_step hbelow).2, hnesting]
    exact le_max_left _ _
  · rw [tokensOf, htokens]
    exact derives_step (unary_staircase _ k)

/-! ## The limit -/

/-- **The limit that an evaluation needs.** A filter without saved filters that was read with `d` levels
has at most `2 * d + 1` levels, and with a limit of as many levels as it has, no evaluation of it meets
the limit. No lower bound serves all filters: some filter that is read with `d` levels meets every limit
below `2 * d + 1` on every record. -/
theorem evaluate_settled_of_read (catalog : Catalog) (registry : Option Registry) {d : ℕ} (hd : 1 ≤ d) :
    (∀ text t, (Reader.mk catalog registry d).read text = .ok t → t.Standalone → t.height ≤ 2 * d + 1 ∧
        ∀ (ρ : Type) (e : Evaluator ρ) (record : ρ), t.height ≤ e.limit →
          Settled (e.evaluate t record).2.errors) ∧
      ∃ text t, (Reader.mk catalog registry d).read text = .ok t ∧ t.Standalone ∧
        ∀ (ρ : Type) (e : Evaluator ρ) (record : ρ), e.limit < 2 * d + 1 →
          .depthExceeded e.limit ∈ (e.evaluate t record).2.errors := by
  have hmax : max d 1 = d := max_eq_left hd
  refine ⟨fun text t hread halone => ⟨?_, fun ρ e record => settled_of_height e record halone⟩, ?_⟩
  · have hheight := (wellFormed_of_read hread).height
    rwa [hmax] at hheight
  · obtain ⟨text, hread⟩ := exists_read_staircase catalog registry hd
    refine ⟨text, staircase d, hread, staircase_standalone d, fun ρ e record hlimit => ?_⟩
    exact mem_evaluate_of_lt_spine e record (staircase_standalone d) (hlimit.trans_eq (staircase_spine d).symm)

/-- A search for a text, as a filter of its own: an expression around the search. -/
def searchError : Node := .expression .and false (.search "error") []

/-- An evaluator for records that are texts, without fields and without saved filters. -/
def ofTexts (maxDepth : ℕ) : Evaluator String := ⟨⟨fun _ _ => none, id⟩, .empty, maxDepth⟩

theorem read_searchError : (Reader.mk (fun _ => none) none 1).read "\"error\"" = .ok searchError := by cbv

theorem searchError_standalone : searchError.Standalone := by
  constructor <;> simp [searchError, Node.parts, partsAll]

theorem evaluate_settled_of_read_search :
    1 ≤ 1 ∧ (Reader.mk (fun _ => none) none 1).read "\"error\"" = .ok searchError ∧ searchError.Standalone ∧
      searchError.height = 2 ∧ Settled ((ofTexts 2).evaluate searchError "An error occurred").2.errors := by
  have hread := (evaluate_settled_of_read (fun _ => none) none (by decide)).1 _ _ read_searchError
  have hsettled := (hread searchError_standalone).2 String (ofTexts 2) "An error occurred" (by decide)
  exact ⟨by decide, read_searchError, searchError_standalone, by decide, hsettled⟩

/-- **A limit that admits a filter need not be enough for its evaluation**: a search for a text is read
with one level, and its tree has two. -/
theorem evaluate_exceeds_limit :
    ¬ ∀ (catalog : Catalog) (registry : Option Registry) (d : ℕ) (text : String) (t : Node), 1 ≤ d →
      (Reader.mk catalog registry d).read text = .ok t → t.Standalone →
        ∀ (ρ : Type) (e : Evaluator ρ) (record : ρ), e.maxDepth = d → Settled (e.evaluate t record).2.errors := by
  intro h
  have hmet : .depthExceeded 1 ∈ ((ofTexts 1).evaluate searchError "An error occurred").2.errors :=
    mem_evaluate_of_lt_spine _ _ searchError_standalone (by decide)
  have hsettled := h (fun _ => none) none 1 _ _ (by decide) read_searchError searchError_standalone String
    (ofTexts 1) "An error occurred" rfl
  exact Bool.noConfusion (hsettled _ hmet)

end LogQuery.Filter
