import LogQuery.Filter.Token
import LogQuery.Text.Hex

/-!
# Filter.Lexer — from characters to tokens

White space separates tokens and is otherwise skipped. Offsets count the bytes of the characters in
UTF-8.

* `lex` reads all tokens of a text, or the first thing in it that is no token.
* `scan_length`: a token never gives characters back, so reading ends.
-/

namespace LogQuery.Filter

/-- A place in the text: its byte offset and the characters from there on. -/
structure Place where
  offset : Nat
  rest : List Char

/-- The number of bytes of the characters in UTF-8. -/
def width : List Char → Nat
  | [] => 0
  | c :: cs => c.utf8Size + width cs

@[simp] theorem width_append (cs ds : List Char) : width (cs ++ ds) = width cs + width ds := by
  induction cs with
  | nil => simp [width]
  | cons c cs ih => simp [width, ih, Nat.add_assoc]

/-! ## Words and numbers -/

/-- The longest word in front, and the place behind it. -/
def nameAt (p : Place) : List Char × Place :=
  let name := p.rest.takeWhile isNameChar
  (name, ⟨p.offset + width name, p.rest.dropWhile isNameChar⟩)

/-- The characters in front that can belong to a number; a sign can only follow an `e`. -/
def numberChars (afterE : Bool) : List Char → List Char × List Char
  | [] => ([], [])
  | c :: cs =>
    let isE := c == 'e' || c == 'E'
    if c.isDigit || c == '.' || isE || (afterE && (c == '+' || c == '-')) then
      let (taken, rest) := numberChars isE cs
      (c :: taken, rest)
    else ([], c :: cs)

/-- Read a number whose first character `c` is read already. -/
def numberAt (c : Char) (p : Place) : Except ReadError (Token × Place) :=
  let (taken, rest) := numberChars false p.rest
  match Number.ofChars? (c :: taken) with
  | some n => .ok (.number n, ⟨p.offset + width taken, rest⟩)
  | none => .error (.invalidNumber (String.ofList (c :: taken)))

/-! ## Quoted texts and patterns -/

/-- The character that a letter after a backslash stands for. -/
def simpleEscape? (c : Char) : Option Char :=
  match c with
  | '"' | '\'' | '\\' => some c
  | 'n' => some '\n'
  | 't' => some '\t'
  | 'r' => some '\r'
  | _ => none

/-- The character with a code point of exactly four hexadecimal digits. -/
def codeEscape? (hex : List Char) : Option Char := do
  guard (hex.length = 4)
  let digits ← hex.mapM Text.hexValue?
  Text.charOf? (digits.foldl (fun n d => 16 * n + d) 0)

/-- Read a text up to its closing quote. The text began at `start`. -/
def textFrom (quote : Char) (start : Nat) : Nat → List Char → Except ReadError (List Char × Place)
  | _, [] => .error (.unterminated .text start)
  | offset, c :: cs =>
    if c = quote then .ok ([], ⟨offset + c.utf8Size, cs⟩)
    else if c = '\\' then
      match cs with
      | [] => .error (.unterminated .escape offset)
      | e :: cs =>
        match simpleEscape? e with
        | some image => do
          let (s, p) ← textFrom quote start (offset + 1 + e.utf8Size) cs
          pure (image :: s, p)
        | none =>
          if e = 'u' then
            match cs with
            | h₁ :: h₂ :: h₃ :: h₄ :: cs =>
              match codeEscape? [h₁, h₂, h₃, h₄] with
              | some image => do
                let (s, p) ← textFrom quote start (offset + 6) cs
                pure (image :: s, p)
              | none => .error (.invalidEscape (String.ofList ['u', h₁, h₂, h₃, h₄]) offset)
            | cs => .error (.invalidEscape (String.ofList ('u' :: cs)) offset)
          else .error (.invalidEscape (String.ofList [e]) offset)
    else do
      let (s, p) ← textFrom quote start (offset + c.utf8Size) cs
      pure (c :: s, p)

/-- Read a pattern up to its closing slash. An escaped slash stands for the slash, every other
escape is kept as it is. The pattern began at `start`. -/
def patternFrom (start : Nat) : Nat → List Char → Except ReadError (List Char × Place)
  | _, [] => .error (.unterminated .pattern start)
  | offset, c :: cs =>
    if c = '/' then .ok ([], ⟨offset + 1, cs⟩)
    else if c = '\\' then
      match cs with
      | [] => .error (.unterminated .pattern start)
      | e :: cs => do
        let (s, p) ← patternFrom start (offset + 1 + e.utf8Size) cs
        pure (if e = '/' then e :: s else c :: e :: s, p)
    else do
      let (s, p) ← patternFrom start (offset + c.utf8Size) cs
      pure (c :: s, p)

/-! ## Tokens -/

/-- The token `long` if the next character is `next`, else the token `short`. -/
def pairOr (next : Char) (long : Token) (short : Except ReadError (Token × Place)) (p : Place) :
    Except ReadError (Token × Place) :=
  match p.rest with
  | d :: ds => if d = next then .ok (long, ⟨p.offset + 1, ds⟩) else short
  | [] => short

/-- No token starts with `c`, the character at `offset`. -/
abbrev noToken (offset : Nat) (c : Char) : Except ReadError (Token × Place) :=
  .error (.unexpected ("'" ++ String.ofList [c] ++ "'") .term offset)

/-- Read the token that starts with `c` at `offset`; `p` is the place behind `c`. -/
def scan (offset : Nat) (c : Char) (p : Place) : Except ReadError (Token × Place) :=
  match c with
  | '(' => .ok (.leftParen, p)
  | ')' => .ok (.rightParen, p)
  | '[' => .ok (.leftBracket, p)
  | ']' => .ok (.rightBracket, p)
  | ',' => .ok (.comma, p)
  | '!' => pairOr '=' (.comparator .notEqual) (.ok (.bang, p)) p
  | '=' => pairOr '=' (.comparator .equal) (noToken offset c) p
  | '<' => pairOr '=' (.comparator .lessEqual) (.ok (.comparator .less, p)) p
  | '>' => pairOr '=' (.comparator .greaterEqual) (.ok (.comparator .greater, p)) p
  | '&' => pairOr '&' (.connective .and) (noToken offset c) p
  | '|' => pairOr '|' (.connective .or) (noToken offset c) p
  | '#' =>
    let (name, q) := nameAt p
    if name.isEmpty then .error (.unexpected "'#'" .aliasName offset)
    else .ok (.alias (String.ofList name), q)
  | '"' | '\'' =>
    (textFrom c offset p.offset p.rest).map fun (s, q) => (.text (String.ofList s), q)
  | '/' => (patternFrom offset p.offset p.rest).map fun (s, q) => (.pattern (String.ofList s), q)
  | '-' =>
    if p.rest.head?.any fun d => d.isDigit || d == '.' then numberAt c p else noToken offset c
  | c =>
    if c.isDigit then numberAt c p
    else if c.isAlpha || c == '_' then
      let (name, q) := nameAt p
      .ok (.ofWord (c :: name), q)
    else noToken offset c

/-! ## Reading ends -/

theorem numberChars_length (afterE : Bool) (cs : List Char) :
    (numberChars afterE cs).2.length ≤ cs.length := by
  induction cs generalizing afterE with
  | nil => simp [numberChars]
  | cons c cs ih =>
    simp only [numberChars]
    split
    · exact Nat.le_succ_of_le (ih _)
    · simp

theorem textFrom_length {quote : Char} {start offset : Nat} {cs s : List Char} {p : Place}
    (h : textFrom quote start offset cs = .ok (s, p)) : p.rest.length ≤ cs.length := by
  fun_induction textFrom quote start offset cs generalizing s p <;>
    simp_all [bind, Except.bind, pure, Except.pure]
  all_goals grind

theorem patternFrom_length {start offset : Nat} {cs s : List Char} {p : Place}
    (h : patternFrom start offset cs = .ok (s, p)) : p.rest.length ≤ cs.length := by
  fun_induction patternFrom start offset cs generalizing s p <;>
    simp_all [bind, Except.bind, pure, Except.pure]
  all_goals grind

theorem numberAt_length {c : Char} {p q : Place} {t : Token} (h : numberAt c p = .ok (t, q)) :
    q.rest.length ≤ p.rest.length := by
  have hl := numberChars_length false p.rest
  simp only [numberAt] at h
  split at h
  · simp only [Except.ok.injEq, Prod.mk.injEq] at h
    rw [← h.2]; exact hl
  · simp at h

theorem nameAt_length (p : Place) : (nameAt p).2.rest.length ≤ p.rest.length :=
  (List.dropWhile_sublist _).length_le

theorem pairOr_length {next : Char} {long t : Token} {short : Except ReadError (Token × Place)}
    {p q : Place} (hs : short = .ok (t, q) → q.rest.length ≤ p.rest.length)
    (h : pairOr next long short p = .ok (t, q)) : q.rest.length ≤ p.rest.length := by
  unfold pairOr at h
  split at h
  · rename_i d ds heq
    split at h
    · simp only [Except.ok.injEq, Prod.mk.injEq] at h
      rw [← h.2, heq]; simp
    · exact hs h
  · exact hs h

theorem rest_le_of_ok {t u : Token} {p q r : Place}
    (h : (Except.ok (u, r) : Except ReadError (Token × Place)) = .ok (t, q))
    (hr : r.rest.length ≤ p.rest.length) : q.rest.length ≤ p.rest.length := by
  cases h; exact hr

theorem scan_length {offset : Nat} {c : Char} {p q : Place} {t : Token}
    (h : scan offset c p = .ok (t, q)) : q.rest.length ≤ p.rest.length := by
  unfold scan at h
  split at h
  case h_1 | h_2 | h_3 | h_4 | h_5 => exact rest_le_of_ok h (Nat.le_refl _)
  case h_6 | h_8 | h_9 => exact pairOr_length (fun h => rest_le_of_ok h (Nat.le_refl _)) h
  case h_7 | h_10 | h_11 =>
    refine pairOr_length ?_ h
    exact fun h => nomatch h
  case h_12 =>
    simp only at h
    split at h
    · exact nomatch h
    · exact rest_le_of_ok h (nameAt_length p)
  case h_13 | h_14 =>
    cases hs : textFrom _ offset p.offset p.rest with
    | error e => rw [hs] at h; exact nomatch h
    | ok r => rw [hs] at h; exact rest_le_of_ok h (textFrom_length hs)
  case h_15 =>
    cases hs : patternFrom offset p.offset p.rest with
    | error e => rw [hs] at h; exact nomatch h
    | ok r => rw [hs] at h; exact rest_le_of_ok h (patternFrom_length hs)
  case h_16 =>
    split at h
    · exact numberAt_length h
    · exact nomatch h
  case h_17 =>
    split at h
    · exact numberAt_length h
    · split at h
      · exact rest_le_of_ok h (nameAt_length p)
      · exact nomatch h

/-- The tokens of the characters that start at `offset`. -/
def lex (offset : Nat) : List Char → Except ReadError (List Located)
  | [] => .ok []
  | c :: cs =>
    if Text.isBlank c then lex (offset + c.utf8Size) cs
    else
      match h : scan offset c ⟨offset + c.utf8Size, cs⟩ with
      | .error e => .error e
      | .ok (t, p) =>
        have : p.rest.length ≤ cs.length := scan_length h
        (lex p.offset p.rest).map (⟨t, offset⟩ :: ·)
  termination_by cs => cs.length

end LogQuery.Filter
