import LogQuery.Filter.Printer
import LogQuery.Filter.Reader
import LogQuery.Proofs.Instant.ReadBack
import LogQuery.Proofs.Number.ReadBack
import Mathlib

/-!
# Proofs.Filter.Lexing — written tokens are read as themselves

`Lexes cs ts rest`: in front of `rest`, the characters `cs` are the tokens `ts`. What follows is part
of the statement, since a word or a number ends only where something else begins.

* `map_eq_ok`, `bind_eq_ok`: a result that takes several steps comes from a result of each of them.
* `Lexes.append`: tokens are put one after the other.
* `lexes_word`, `lexes_number`: words and numbers in front of what ends them (`Ends`).
* `lexes_quoted`, `lexes_slashed`: texts and patterns bring their own end. A pattern is read back if
  every backslash in it stands in front of something other than a slash (`Paired`).
* `scan_slashed`: if backslashes stand in front of slashes too (`Complete`), these slashes come back bare.
-/

namespace LogQuery.Filter

/-! ## Results of several steps -/

section

variable {ε α β : Type} {x : Except ε α} {b : β}

theorem map_eq_ok {f : α → β} : x.map f = .ok b ↔ ∃ a, x = .ok a ∧ f a = b := by
  cases x <;> simp [Except.map]

theorem bind_eq_ok {f : α → Except ε β} : (x >>= f) = .ok b ↔ ∃ a, x = .ok a ∧ f a = .ok b := by
  cases x <;> simp [bind, Except.bind]

end

/-! ## Tokens in front of a rest -/

/-- In front of `rest`, the characters `cs` are the tokens `ts`, wherever they start. -/
def Lexes (cs : List Char) (ts : List Token) (rest : List Char) : Prop :=
  ∀ offset, ∃ (located : List Located) (offset' : ℕ), located.map Located.token = ts ∧
    lex offset cs = (lex offset' rest).map (located ++ ·)

/-- What ends a word and a number: the end of the text, a blank or a closing mark. -/
def Ends (cs : List Char) : Prop := ∀ c ∈ cs.head?, c = ' ' ∨ c = ')' ∨ c = ']' ∨ c = ','

theorem ends_nil : Ends [] := by
  intro c hc
  simp at hc

theorem ends_cons {c : Char} (h : c = ' ' ∨ c = ')' ∨ c = ']' ∨ c = ',') (cs : List Char) :
    Ends (c :: cs) := by
  intro d hd
  obtain rfl : c = d := by simpa using hd
  exact h

/-! ## Putting tokens together -/

theorem Lexes.nil (rest : List Char) : Lexes rest [] rest := by
  intro offset
  refine ⟨[], offset, rfl, ?_⟩
  cases lex offset rest <;> rfl

theorem Lexes.append {as bs cs : List Char} {ts us : List Token} (h1 : Lexes as ts bs)
    (h2 : Lexes bs us cs) : Lexes as (ts ++ us) cs := by
  intro offset
  obtain ⟨located, offset', htoken, hlex⟩ := h1 offset
  obtain ⟨located', offset'', htoken', hlex'⟩ := h2 offset'
  refine ⟨located ++ located', offset'', by rw [List.map_append, htoken, htoken'], ?_⟩
  rw [hlex, hlex']
  cases lex offset'' cs with
  | error e => rfl
  | ok rest => simp [Except.map]

/-- A whole text of tokens. -/
theorem Lexes.ok {cs : List Char} {ts : List Token} (h : Lexes cs ts []) (offset : ℕ) :
    ∃ located : List Located, located.map Located.token = ts ∧ lex offset cs = .ok located := by
  obtain ⟨located, offset', htoken, hlex⟩ := h offset
  refine ⟨located, htoken, ?_⟩
  rw [hlex, lex]
  simp [Except.map]

theorem lexes_blank (rest : List Char) : Lexes (' ' :: rest) [] rest := by
  intro offset
  refine ⟨[], offset + ' '.utf8Size, rfl, ?_⟩
  rw [lex, if_pos (by decide)]
  cases lex (offset + ' '.utf8Size) rest <;> rfl

/-- A character that is no blank starts a token, and the tokens behind it follow. -/
theorem lex_cons {c : Char} (hc : Text.isBlank c = false) (offset : ℕ) (cs : List Char) :
    lex offset (c :: cs) = (scan offset c ⟨offset + c.utf8Size, cs⟩).bind fun (t, p) =>
      (lex p.offset p.rest).map (⟨t, offset⟩ :: ·) := by
  rw [lex, if_neg (by rw [hc]; decide)]
  split
  all_goals
    simp only [*]
    rfl

theorem lexes_scan {c : Char} {cs rest : List Char} {t : Token} (hc : Text.isBlank c = false)
    (h : ∀ offset, ∃ offset', scan offset c ⟨offset + c.utf8Size, cs⟩ = .ok (t, ⟨offset', rest⟩)) :
    Lexes (c :: cs) [t] rest := by
  intro offset
  obtain ⟨offset', hscan⟩ := h offset
  refine ⟨[⟨t, offset⟩], offset', rfl, ?_⟩
  rw [lex_cons hc, hscan]
  rfl

theorem lexes_leftParen (rest : List Char) : Lexes ('(' :: rest) [.leftParen] rest :=
  lexes_scan (by decide) fun _ => ⟨_, rfl⟩

theorem lexes_rightParen (rest : List Char) : Lexes (')' :: rest) [.rightParen] rest :=
  lexes_scan (by decide) fun _ => ⟨_, rfl⟩

theorem lexes_leftBracket (rest : List Char) : Lexes ('[' :: rest) [.leftBracket] rest :=
  lexes_scan (by decide) fun _ => ⟨_, rfl⟩

theorem lexes_rightBracket (rest : List Char) : Lexes (']' :: rest) [.rightBracket] rest :=
  lexes_scan (by decide) fun _ => ⟨_, rfl⟩

theorem lexes_comma (rest : List Char) : Lexes (',' :: rest) [.comma] rest :=
  lexes_scan (by decide) fun _ => ⟨_, rfl⟩

/-- A negation in front of its group. -/
theorem lexes_bang (rest : List Char) : Lexes ('!' :: '(' :: rest) [.bang] ('(' :: rest) :=
  lexes_scan (by decide) fun _ => ⟨_, rfl⟩

/-! ## Words -/

/-- The text is a word of its own: it starts like a name, holds characters of names, and is no
keyword. -/
def IsWord (name : String) : Prop :=
  (∃ c cs, name.toList = c :: cs ∧ (c.isAlpha || c == '_') = true ∧ ∀ d ∈ cs, isNameChar d = true) ∧
    Token.ofWord name.toList = .word name

theorem isNameChar_of_ends {cs : List Char} (h : Ends cs) : ∀ c ∈ cs.head?, isNameChar c = false := by
  intro c hc
  rcases h c hc with rfl | rfl | rfl | rfl <;> decide

theorem nameAt_append {cs rest : List Char} (hcs : ∀ c ∈ cs, isNameChar c = true) (hrest : Ends rest)
    (offset : ℕ) : nameAt ⟨offset, cs ++ rest⟩ = (cs, ⟨offset + width cs, rest⟩) := by
  have hstop := isNameChar_of_ends hrest
  have hspan : (cs ++ rest).takeWhile isNameChar = cs ∧ (cs ++ rest).dropWhile isNameChar = rest := by
    rw [List.takeWhile_append_of_pos hcs, List.dropWhile_append_of_pos hcs]
    cases rest with
    | nil => simp
    | cons d ds =>
      have hd : ¬ isNameChar d = true := by rw [hstop d rfl]; decide
      rw [List.takeWhile_cons_of_neg hd, List.dropWhile_cons_of_neg hd, List.append_nil]
      exact ⟨rfl, rfl⟩
  simp only [nameAt, hspan.1, hspan.2]

/-- The code points of the characters that start a name. -/
theorem toNat_of_start {c : Char} (hc : (c.isAlpha || c == '_') = true) :
    (65 ≤ c.toNat ∧ c.toNat ≤ 90) ∨ (97 ≤ c.toNat ∧ c.toNat ≤ 122) ∨ c.toNat = 95 := by
  simp only [Char.isAlpha, Char.isUpper, Char.isLower, Bool.or_eq_true, Bool.and_eq_true,
    decide_eq_true_eq, UInt32.le_iff_toNat_le, beq_iff_eq] at hc
  rcases hc with (⟨h1, h2⟩ | ⟨h1, h2⟩) | rfl
  · exact .inl ⟨h1, h2⟩
  · exact .inr (.inl ⟨h1, h2⟩)
  · exact .inr (.inr rfl)

theorem isBlank_of_start {c : Char} (hc : (c.isAlpha || c == '_') = true) : Text.isBlank c = false := by
  have hrange := toNat_of_start hc
  simp only [Text.isBlank, Bool.or_eq_false_iff, Bool.and_eq_false_iff, decide_eq_false_iff_not,
    beq_eq_false_iff_ne]
  omega

theorem isDigit_of_start {c : Char} (hc : (c.isAlpha || c == '_') = true) : c.isDigit = false := by
  have hrange := toNat_of_start hc
  rw [Bool.eq_false_iff]
  intro hdigit
  simp only [Char.isDigit, Bool.and_eq_true, decide_eq_true_eq, UInt32.le_iff_toNat_le] at hdigit
  have h2 : c.toNat ≤ 57 := hdigit.2
  omega

/-- A word starts with a letter or an underscore, and no other token does. -/
theorem scan_start {c : Char} (hc : (c.isAlpha || c == '_') = true) (offset : ℕ) (p : Place) :
    scan offset c p = .ok (.ofWord (c :: (nameAt p).1), (nameAt p).2) := by
  unfold scan
  split
  all_goals first | exact absurd hc (by decide) | skip
  rw [if_neg (by rw [isDigit_of_start hc]; decide), if_pos hc]

theorem lexes_ofWord (c : Char) (cs : List Char) {rest : List Char} (hc : (c.isAlpha || c == '_') = true)
    (hcs : cs.all isNameChar = true) (hrest : Ends rest) :
    Lexes (c :: cs ++ rest) [.ofWord (c :: cs)] rest := by
  rw [List.cons_append]
  refine lexes_scan (isBlank_of_start hc) fun offset => ⟨offset + c.utf8Size + width cs, ?_⟩
  rw [scan_start hc, nameAt_append (List.all_eq_true.mp hcs) hrest]

theorem lexes_word {name : String} (h : IsWord name) {rest : List Char} (hrest : Ends rest) :
    Lexes (name.toList ++ rest) [.word name] rest := by
  obtain ⟨⟨c, cs, hname, hc, hcs⟩, hword⟩ := h
  rw [← hword, hname]
  exact lexes_ofWord c cs hc (List.all_eq_true.mpr hcs) hrest

theorem lexes_boolean (b : Bool) {rest : List Char} (hrest : Ends rest) :
    Lexes ((booleanText b).toList ++ rest) [.boolean b] rest := by
  cases b
  · exact lexes_ofWord 'f' ['a', 'l', 's', 'e'] (by decide) (by decide) hrest
  · exact lexes_ofWord 't' ['r', 'u', 'e'] (by decide) (by decide) hrest

theorem lexes_connective (op : Connective) (rest : List Char) :
    Lexes (op.label.toList ++ ' ' :: rest) [.connective op] (' ' :: rest) := by
  have hends : Ends (' ' :: rest) := ends_cons (.inl rfl) rest
  cases op
  · exact lexes_ofWord 'A' ['N', 'D'] (by decide) (by decide) hends
  · exact lexes_ofWord 'O' ['R'] (by decide) (by decide) hends

theorem lexes_comparator (op : Comparator) (rest : List Char) :
    Lexes (op.label.toList ++ ' ' :: rest) [.comparator op] (' ' :: rest) := by
  have hends : Ends (' ' :: rest) := ends_cons (.inl rfl) rest
  cases op with
  | contains =>
    exact lexes_ofWord 'C' ['O', 'N', 'T', 'A', 'I', 'N', 'S'] (by decide) (by decide)
      hends
  | isIn => exact lexes_ofWord 'I' ['N'] (by decide) (by decide) hends
  | «matches» =>
    exact lexes_ofWord 'M' ['A', 'T', 'C', 'H', 'E', 'S'] (by decide) (by decide) hends
  | equal => exact lexes_scan (c := '=') (by decide) fun _ => ⟨_, rfl⟩
  | notEqual => exact lexes_scan (c := '!') (by decide) fun _ => ⟨_, rfl⟩
  | greater => exact lexes_scan (c := '>') (by decide) fun _ => ⟨_, rfl⟩
  | less => exact lexes_scan (c := '<') (by decide) fun _ => ⟨_, rfl⟩
  | greaterEqual => exact lexes_scan (c := '>') (by decide) fun _ => ⟨_, rfl⟩
  | lessEqual => exact lexes_scan (c := '<') (by decide) fun _ => ⟨_, rfl⟩

/-- A name that needs no change to be stored. -/
def IsStored (name : String) : Prop := name ≠ "" ∧ ∀ c ∈ name.toList, isNameChar c = true

theorem lexes_alias {name : String} (h : IsStored name) {rest : List Char} (hrest : Ends rest) :
    Lexes ('#' :: name.toList ++ rest) [.alias name] rest := by
  rw [List.cons_append]
  refine lexes_scan (by decide) fun offset => ⟨offset + '#'.utf8Size + width name.toList, ?_⟩
  have hne : name.toList.isEmpty = false := by simpa using h.1
  unfold scan
  simp only [nameAt_append h.2 hrest, hne, Bool.false_eq_true, if_false, String.ofList_toList]

/-! ## Numbers -/

theorem numberChars_ends {rest : List Char} (hrest : Ends rest) :
    numberChars false rest = ([], rest) := by
  cases rest with
  | nil => rfl
  | cons c cs => rcases hrest c rfl with rfl | rfl | rfl | rfl <;> rfl

theorem numberChars_append {cs rest : List Char} (hcs : ∀ c ∈ cs, c.isDigit = true ∨ c = '.')
    (hrest : Ends rest) : numberChars false (cs ++ rest) = (cs, rest) := by
  induction cs with
  | nil => exact numberChars_ends hrest
  | cons c cs ih =>
    have ih := ih fun d hd => hcs d (List.mem_cons_of_mem c hd)
    have htaken : (c.isDigit || c == '.') = true := by simpa using hcs c List.mem_cons_self
    have hnotE : (c == 'e' || c == 'E') = false := by
      rw [Bool.eq_false_iff]
      intro he
      rcases (by simpa using he : c = 'e' ∨ c = 'E') with rfl | rfl
      · exact absurd htaken (by decide)
      · exact absurd htaken (by decide)
    rw [List.cons_append, numberChars]
    simp only [htaken, hnotE, Bool.true_or, if_true, ih]

theorem numberAt_append {c : Char} {cs rest : List Char} {n : Number} {offset : ℕ}
    (htaken : numberChars false (cs ++ rest) = (cs, rest)) (hn : Number.ofChars? (c :: cs) = some n) :
    numberAt c ⟨offset, cs ++ rest⟩ = .ok (.number n, ⟨offset + width cs, rest⟩) := by
  simp only [numberAt, htaken, hn]

/-- A digit starts a number, and no other token does. -/
theorem scan_digit {c : Char} (hc : c.isDigit = true) (offset : ℕ) (p : Place) :
    scan offset c p = numberAt c p := by
  unfold scan
  split
  all_goals first | exact absurd hc (by decide) | skip
  rw [if_pos hc]

theorem scan_minus {c : Char} (hc : c.isDigit = true) (offset offset' : ℕ) (cs : List Char) :
    scan offset '-' ⟨offset', c :: cs⟩ = numberAt '-' ⟨offset', c :: cs⟩ := by
  have hhead : ((c :: cs).head?.any fun d => d.isDigit || d == '.') = true := by simp [hc]
  unfold scan
  simp only [hhead, if_true]

/-- An unsigned number is read up to what ends it, a signed one likewise. -/
theorem lexes_numeral (negative : Bool) {c : Char} {cs rest : List Char} {n : Number}
    (hc : c.isDigit = true) (htaken : numberChars false (cs ++ rest) = (cs, rest))
    (hn : Number.ofChars? ((if negative then ['-'] else []) ++ c :: cs) = some n) :
    Lexes ((if negative then ['-'] else []) ++ c :: cs ++ rest) [.number n] rest := by
  cases negative with
  | false =>
    refine lexes_scan (Text.isBlank_of_isDigit hc) fun offset => ⟨offset + c.utf8Size + width cs, ?_⟩
    rw [scan_digit hc]
    exact numberAt_append htaken hn
  | true =>
    show Lexes ('-' :: (c :: cs ++ rest)) [.number n] rest
    refine lexes_scan (by decide) fun offset => ⟨offset + '-'.utf8Size + width (c :: cs), ?_⟩
    rw [List.cons_append, scan_minus hc]
    rw [← List.cons_append]
    refine numberAt_append ?_ hn
    have hnotE : (c == 'e' || c == 'E') = false := by
      rw [Bool.eq_false_iff]
      intro he
      rcases (by simpa using he : c = 'e' ∨ c = 'E') with rfl | rfl
      · exact absurd hc (by decide)
      · exact absurd hc (by decide)
    rw [List.cons_append, numberChars]
    simp only [hc, hnotE, Bool.true_or, if_true, htaken]

/-- A number is read by value; the one that is none is a word. -/
theorem lexes_number {n : Number} (hn : n ≠ .nan) {rest : List Char} (hrest : Ends rest) :
    Lexes (numberText n ++ rest) [.number n.plainZero] rest := by
  have hinf : numberChars false ("e999".toList ++ rest) = ("e999".toList, rest) := by
    show numberChars false ('e' :: '9' :: '9' :: '9' :: rest) = _
    have hstop := numberChars_ends hrest
    simp [numberChars, hstop]
  cases n with
  | nan => exact absurd rfl hn
  | infinite negative =>
    cases negative
    · exact lexes_numeral false (c := '1') rfl hinf rfl
    · exact lexes_numeral true (c := '1') rfl hinf rfl
  | finite negative m =>
    obtain ⟨p, hp⟩ := Number.exists_writes m
    obtain ⟨c, cs, hcs, hc⟩ := p.head_digit
    have hread := Number.ofChars?_canonical negative m
    have hchars : numberText (.finite negative m) =
        (if negative && !m.isZero then ['-'] else []) ++ c :: cs := by
      rw [← hcs, ← hp.chars]
      exact Number.canonical_finite negative m
    have htaken : numberChars false (cs ++ rest) = (cs, rest) :=
      numberChars_append (fun d hd => p.digit_or_point d (hcs ▸ List.mem_cons_of_mem c hd)) hrest
    rw [hchars]
    refine lexes_numeral _ hc htaken ?_
    rw [← hchars]
    exact hread

theorem lexes_nan {rest : List Char} (hrest : Ends rest) :
    Lexes (numberText .nan ++ rest) [.word "NaN"] rest :=
  lexes_ofWord 'N' ['a', 'N'] (by decide) (by decide) hrest

/-! ## Quoted texts -/

theorem codeEscape?_low : ∀ n < 160,
    codeEscape? [hexChar (n / 4096), hexChar (n / 256), hexChar (n / 16), hexChar n] =
      some (Char.ofNat n) := by
  decide +kernel

/-- A control character is read from its code point. -/
theorem codeEscape?_control {c : Char} (hc : Text.isControl c = true) :
    codeEscape? [hexChar (c.toNat / 4096), hexChar (c.toNat / 256), hexChar (c.toNat / 16),
      hexChar c.toNat] = some c := by
  have hlt : c.toNat < 160 := by
    simp only [Text.isControl, Bool.or_eq_true, Bool.and_eq_true, decide_eq_true_eq] at hc
    omega
  rw [codeEscape?_low c.toNat hlt, Char.ofNat_toNat]

section

variable {quote : Char} {start offset : ℕ} {cs : List Char}

theorem textFrom_close : textFrom quote start offset (quote :: cs) =
    .ok ([], ⟨offset + quote.utf8Size, cs⟩) := by
  conv_lhs => unfold textFrom
  rw [if_pos rfl]

theorem textFrom_bare {c : Char} (hq : c ≠ quote) (hb : c ≠ '\\') :
    textFrom quote start offset (c :: cs) =
      (textFrom quote start (offset + c.utf8Size) cs).map fun (s, p) => (c :: s, p) := by
  conv_lhs => unfold textFrom
  rw [if_neg hq, if_neg hb]
  cases textFrom quote start (offset + c.utf8Size) cs <;> rfl

theorem textFrom_escape (hq : '\\' ≠ quote) {e image : Char} (he : simpleEscape? e = some image) :
    textFrom quote start offset ('\\' :: e :: cs) =
      (textFrom quote start (offset + 1 + e.utf8Size) cs).map fun (s, p) => (image :: s, p) := by
  conv_lhs => unfold textFrom
  rw [if_neg hq, if_pos rfl]
  simp only [he]
  cases textFrom quote start (offset + 1 + e.utf8Size) cs <;> rfl

theorem textFrom_code (hq : '\\' ≠ quote) {h₁ h₂ h₃ h₄ image : Char}
    (hcode : codeEscape? [h₁, h₂, h₃, h₄] = some image) :
    textFrom quote start offset ('\\' :: 'u' :: h₁ :: h₂ :: h₃ :: h₄ :: cs) =
      (textFrom quote start (offset + 6) cs).map fun (s, p) => (image :: s, p) := by
  conv_lhs => unfold textFrom
  rw [if_neg hq, if_pos rfl]
  simp only [simpleEscape?, if_true, hcode]
  cases textFrom quote start (offset + 6) cs <;> rfl

end

/-- One written character is read as the character. -/
theorem textFrom_quotedChar (c : Char) (start offset : ℕ) (cs : List Char) :
    ∃ offset', textFrom '"' start offset (quotedChar c ++ cs) =
      (textFrom '"' start offset' cs).map fun (s, p) => (c :: s, p) := by
  have hquote : '\\' ≠ '"' := by decide
  unfold quotedChar
  split_ifs with hq hb hn hr ht hcontrol
  · subst hq
    exact ⟨_, textFrom_escape (e := '"') hquote rfl⟩
  · subst hb
    exact ⟨_, textFrom_escape (e := '\\') hquote rfl⟩
  · subst hn
    exact ⟨_, textFrom_escape (e := 'n') hquote rfl⟩
  · subst hr
    exact ⟨_, textFrom_escape (e := 'r') hquote rfl⟩
  · subst ht
    exact ⟨_, textFrom_escape (e := 't') hquote rfl⟩
  · exact ⟨_, textFrom_code hquote (codeEscape?_control hcontrol)⟩
  · exact ⟨_, textFrom_bare hq hb⟩

theorem textFrom_quoted (cs rest : List Char) (start offset : ℕ) :
    ∃ offset', textFrom '"' start offset (cs.flatMap quotedChar ++ '"' :: rest) =
      .ok (cs, ⟨offset', rest⟩) := by
  induction cs generalizing offset with
  | nil => exact ⟨_, textFrom_close⟩
  | cons c cs ih =>
    obtain ⟨offset', hc⟩ := textFrom_quotedChar c start offset (cs.flatMap quotedChar ++ '"' :: rest)
    obtain ⟨offset'', hcs⟩ := ih offset'
    refine ⟨offset'', ?_⟩
    rw [List.flatMap_cons, List.append_assoc, hc, hcs]
    rfl

/-- A text in quotes is read as the text, whatever characters it has. -/
theorem lexes_quoted (s : String) (rest : List Char) :
    Lexes (quoted s ++ rest) [.text s] rest := by
  unfold quoted
  rw [List.cons_append, List.cons_append, List.append_assoc]
  refine lexes_scan (by decide) fun offset => ?_
  obtain ⟨offset', htext⟩ := textFrom_quoted s.toList rest offset (offset + '"'.utf8Size)
  refine ⟨offset', ?_⟩
  show (textFrom '"' offset _ _).map _ = _
  rw [List.cons_append, List.nil_append, htext]
  simp [Except.map, String.ofList_toList]

/-! ## Patterns -/

/-- Every backslash stands in front of a character, which it escapes. -/
inductive Complete : List Char → Prop where
  | nil : Complete []
  | escape (c : Char) {cs : List Char} (hcs : Complete cs) : Complete ('\\' :: c :: cs)
  | bare {c : Char} (hc : c ≠ '\\') {cs : List Char} (hcs : Complete cs) : Complete (c :: cs)

/-- The source with a bare slash for each escaped one. -/
def bareSlashes : List Char → List Char
  | [] => []
  | '\\' :: c :: cs => if c = '/' then c :: bareSlashes cs else '\\' :: c :: bareSlashes cs
  | c :: cs => c :: bareSlashes cs

theorem bareSlashes_bare {c : Char} (hc : c ≠ '\\') (cs : List Char) : bareSlashes (c :: cs) = c :: bareSlashes cs := by
  rw [bareSlashes]
  rintro d ds rfl
  exact absurd rfl hc

/-- Every backslash stands in front of a character, and of no slash. -/
inductive Paired : List Char → Prop where
  | nil : Paired []
  | escape {c : Char} {cs : List Char} (hc : c ≠ '/') (hcs : Paired cs) : Paired ('\\' :: c :: cs)
  | bare {c : Char} {cs : List Char} (hc : c ≠ '\\') (hcs : Paired cs) : Paired (c :: cs)

/-- No backslash stands in front of a slash exactly if no slash loses one. -/
theorem paired_iff {cs : List Char} : Paired cs ↔ Complete cs ∧ bareSlashes cs = cs := by
  constructor
  · intro h
    induction h with
    | nil => exact ⟨.nil, rfl⟩
    | @escape c cs hc _ ih => exact ⟨.escape c ih.1, by rw [bareSlashes, if_neg hc, ih.2]⟩
    | bare hc _ ih => exact ⟨.bare hc ih.1, by rw [bareSlashes_bare hc, ih.2]⟩
  · rintro ⟨h, heq⟩
    induction h with
    | nil => exact .nil
    | escape c _ ih =>
      rw [bareSlashes] at heq
      split_ifs at heq with hc
      · exact absurd ((List.cons.inj heq).1.symm.trans hc) (by decide)
      · exact .escape hc (ih (List.cons.inj (List.cons.inj heq).2).2)
    | bare hc _ ih =>
      rw [bareSlashes_bare hc] at heq
      exact .bare hc (ih (List.cons.inj heq).2)

section

variable {start offset : ℕ} {cs : List Char}

theorem patternFrom_close : patternFrom start offset ('/' :: cs) = .ok ([], ⟨offset + 1, cs⟩) := by
  conv_lhs => unfold patternFrom
  rw [if_pos rfl]

theorem patternFrom_bare {c : Char} (hs : c ≠ '/') (hb : c ≠ '\\') :
    patternFrom start offset (c :: cs) =
      (patternFrom start (offset + c.utf8Size) cs).map fun (s, p) => (c :: s, p) := by
  conv_lhs => unfold patternFrom
  rw [if_neg hs, if_neg hb]
  cases patternFrom start (offset + c.utf8Size) cs <;> rfl

theorem patternFrom_escape (e : Char) :
    patternFrom start offset ('\\' :: e :: cs) =
      (patternFrom start (offset + 1 + e.utf8Size) cs).map fun (s, p) =>
        (if e = '/' then e :: s else '\\' :: e :: s, p) := by
  conv_lhs => unfold patternFrom
  rw [if_neg (by decide), if_pos rfl]
  simp only
  cases patternFrom start (offset + 1 + e.utf8Size) cs <;> rfl

end

theorem slashedBody_bare {c : Char} (hc : c ≠ '\\') (cs : List Char) :
    slashedBody (c :: cs) = if c = '/' then '\\' :: '/' :: slashedBody cs else c :: slashedBody cs := by
  rw [slashedBody]
  rintro d ds rfl
  exact absurd rfl hc

/-- What is written of a source is read as the source with bare slashes, whatever follows. -/
theorem patternFrom_slashedBody {cs : List Char} (h : Complete cs) (start offset : ℕ) :
    ∃ offset', ∀ rest, patternFrom start offset (slashedBody cs ++ rest) =
      (patternFrom start offset' rest).map fun (s, p) => (bareSlashes cs ++ s, p) := by
  induction h generalizing offset with
  | nil =>
    refine ⟨offset, fun rest => ?_⟩
    rw [slashedBody, List.nil_append]
    cases patternFrom start offset rest <;> rfl
  | @escape c cs _ ih =>
    obtain ⟨offset', hread⟩ := ih (offset + 1 + c.utf8Size)
    refine ⟨offset', fun rest => ?_⟩
    rw [slashedBody, List.cons_append, List.cons_append, patternFrom_escape, hread, bareSlashes]
    split_ifs <;> cases patternFrom start offset' rest <;> rfl
  | @bare c hc cs _ ih =>
    rw [bareSlashes_bare hc, slashedBody_bare hc]
    split_ifs with hslash
    · obtain ⟨offset', hread⟩ := ih (offset + 1 + '/'.utf8Size)
      refine ⟨offset', fun rest => ?_⟩
      rw [List.cons_append, List.cons_append, patternFrom_escape, hread, hslash]
      cases patternFrom start offset' rest <;> rfl
    · obtain ⟨offset', hread⟩ := ih (offset + c.utf8Size)
      refine ⟨offset', fun rest => ?_⟩
      rw [List.cons_append, patternFrom_bare hslash hc, hread]
      cases patternFrom start offset' rest <;> rfl

/-- The closing slash ends the pattern. -/
theorem scan_slashed {source : String} (h : Complete source.toList) (offset : ℕ) (rest : List Char) :
    ∃ offset', scan offset '/' ⟨offset + '/'.utf8Size, slashedBody source.toList ++ '/' :: rest⟩ =
      .ok (.pattern (String.ofList (bareSlashes source.toList)), ⟨offset', rest⟩) := by
  obtain ⟨offset', hpattern⟩ := patternFrom_slashedBody h offset (offset + '/'.utf8Size)
  refine ⟨offset' + 1, ?_⟩
  show (patternFrom offset _ _).map _ = _
  rw [hpattern, patternFrom_close]
  simp [Except.map]

theorem lexes_slashed {source : String} (h : Paired source.toList) (rest : List Char) :
    Lexes (slashed source ++ rest) [.pattern source] rest := by
  obtain ⟨hcomplete, hbare⟩ := paired_iff.mp h
  unfold slashed
  rw [List.cons_append, List.cons_append, List.append_assoc, List.cons_append, List.nil_append]
  refine lexes_scan (by decide) fun offset => ?_
  obtain ⟨offset', hscan⟩ := scan_slashed hcomplete offset rest
  exact ⟨offset', by rw [hscan, hbare, String.ofList_toList]⟩

end LogQuery.Filter
