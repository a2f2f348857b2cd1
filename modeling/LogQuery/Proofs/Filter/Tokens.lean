import LogQuery.Proofs.Filter.Lexing

/-!
# Proofs.Filter.Tokens — the tokens of a canonical text

The token lists follow the printer constructor by constructor: `Node.tokens` beside `Node.chars`.

* `Reader.Says`: a side of a comparison can be named in a filter and is found again by the reader.
* `Reader.Names`: so can the sides of a filter without connectives.
* `Reader.Restates`: the filter is found again from its tokens. Its constants may be typed anew.
* `lexes_operand`, `lexes_node`: what is printed has these tokens.
-/

namespace LogQuery.Filter

/-! ## Token lists -/

/-- The tokens of the members of a set. -/
def memberTokens : List String → List Token
  | [] => []
  | [s] => [.text s]
  | s :: rest => .text s :: .comma :: memberTokens rest

/-- The tokens of a constant. -/
def Literal.tokens (op : Comparator) : Literal → List Token
  | .text s => [.text s]
  | .pattern p => if op = .matches then [.text p.source] else [.pattern p.source]
  | .date d => [.text d.canonical]
  | .number .nan => [.word "NaN"]
  | .number n => [.number n.plainZero]
  | .boolean b => [.boolean b]
  | .set values => .leftBracket :: memberTokens values ++ [.rightBracket]

/-- The tokens of a side of a comparison. -/
def Operand.tokens (op : Comparator) : Operand → List Token
  | .field f => [.word f.name]
  | .rule name => [.word name]
  | .literal l => l.tokens op

/-- The tokens of a comparison. -/
def Comparison.tokens (c : Comparison) : List Token :=
  c.left.tokens c.op ++ .comparator c.op :: c.right.tokens c.op

/-- Tokens in parentheses if asked. -/
def groupedTokens (inside : Bool) (ts : List Token) : List Token :=
  if inside then .leftParen :: ts ++ [.rightParen] else ts

mutual

/-- The tokens of the canonical text of a filter. -/
def Node.tokens : Node → List Token
  | .expression op negated first rest =>
    let body := groupedTokens first.isPlain first.tokens ++ restTokens op rest
    if negated then .bang :: .leftParen :: body ++ [.rightParen] else body
  | .comparison c => c.tokens
  | .search term => [.text term]
  | .alias name => [.alias (sanitize name)]

/-- The tokens of the further parts of an expression. -/
def restTokens (op : Connective) : List Node → List Token
  | [] => []
  | node :: nodes =>
    .connective op :: groupedTokens node.isPlain node.tokens ++ restTokens op nodes

end

/-! ## Leaves -/

mutual

/-- The parts of a filter that are no expressions, from left to right. -/
def Node.leaves : Node → List Node
  | .expression _ _ first rest => first.leaves ++ leavesAll rest
  | .comparison c => [.comparison c]
  | .search term => [.search term]
  | .alias name => [.alias name]

/-- The leaves of several filters. -/
def leavesAll : List Node → List Node
  | [] => []
  | node :: nodes => node.leaves ++ leavesAll nodes

end

/-- The number with the positive zero for the negative one. -/
def Literal.plainZero : Literal → Literal
  | .number n => .number n.plainZero
  | l => l

@[inherit_doc Literal.plainZero] def Operand.plainZero : Operand → Operand
  | .literal l => .literal l.plainZero
  | o => o

@[inherit_doc Literal.plainZero] def Comparison.plainZero (c : Comparison) : Comparison :=
  ⟨c.left.plainZero, c.op, c.right.plainZero⟩

/-- The constant that the tokens stand for before it is typed. -/
def Literal.untyped (op : Comparator) : Literal → Literal
  | .pattern p => if op = .matches then .text p.source else .pattern p
  | .date d => .text d.canonical
  | l => l.plainZero

/-- The side that the tokens stand for before constants are typed. -/
def Operand.untyped (op : Comparator) : Operand → Operand
  | .literal l => .literal (l.untyped op)
  | o => o

/-- The side can be named in a filter: names are words and are found as what they name, a pattern
can be written between slashes where it has to be, and the word `NaN` names nothing else. -/
def Reader.Says (r : Reader) (op : Comparator) : Operand → Prop
  | .field f => IsWord f.name ∧ r.catalog f.name = some f.type
  | .rule name => IsWord name ∧ r.catalog name = none ∧ r.isRule name = true
  | .literal (.pattern p) => p.isValid = true ∧ (op = .matches ∨ Paired p.source.toList)
  | .literal (.number .nan) => r.catalog "NaN" = none ∧ r.isRule "NaN" = false
  | .literal _ => True

/-- The filter, which has no connectives, is found again from its tokens. Zeros lose their sign. -/
def Reader.Restates (r : Reader) : Node → Prop
  | .comparison c => r.Says c.op c.left ∧ r.Says c.op c.right ∧
    ∀ position, comparisonOf (c.left.untyped c.op) c.op (c.right.untyped c.op) position =
      .ok (.comparison c.plainZero)
  | .search _ => True
  | .alias name => IsStored name
  | .expression .. => False

/-- The filter, which has no connectives, is written with the tokens that it has: its sides can be
named. -/
def Reader.Names (r : Reader) : Node → Prop
  | .comparison c => r.Says c.op c.left ∧ r.Says c.op c.right
  | .search _ => True
  | .alias name => IsStored name
  | .expression .. => False

theorem names_of_restates {r : Reader} {n : Node} (h : r.Restates n) : r.Names n := by
  cases n with
  | comparison c => exact ⟨h.1, h.2.1⟩
  | _ => exact h

/-- A name without characters to replace is stored as it is. -/
theorem sanitize_eq_self {name : String} (h : ∀ c ∈ name.toList, isNameChar c = true) :
    sanitize name = name := by
  have hblank : ∀ c ∈ name.toList, Text.isBlank c = false := by
    intro c hc
    have hname := h c hc
    simp only [isNameChar, Char.isAlphanum, Bool.or_eq_true, beq_iff_eq] at hname
    rcases hname with ((ha | hd) | hu) | hp
    · exact isBlank_of_start (by rw [ha]; rfl)
    · exact Text.isBlank_of_isDigit hd
    · rw [hu]; rfl
    · rw [hp]; rfl
  have hmap : name.toList.map nameChar = name.toList := by
    conv_rhs => rw [← List.map_id name.toList]
    exact List.map_congr_left fun c hc => if_pos (h c hc)
  rw [sanitize, Text.trimChars_eq_self hblank, hmap, String.ofList_toList]

theorem IsStored.sanitize {name : String} (h : IsStored name) : sanitize name = name :=
  sanitize_eq_self h.2

/-! ## What is printed has these tokens -/

theorem lexes_members (values : List String) (rest : List Char) :
    Lexes (members values ++ rest) (memberTokens values) rest := by
  fun_induction members values with
  | case1 => exact .nil rest
  | case2 s => exact lexes_quoted s rest
  | case3 s values hne ih =>
    rw [memberTokens]
    · rw [List.append_assoc, List.cons_append, List.cons_append]
      have hs := lexes_quoted s (',' :: ' ' :: (members values ++ rest))
      exact hs.append ((lexes_comma _).append ((lexes_blank _).append ih))
    · exact hne

theorem lexes_operand {r : Reader} {op : Comparator} {o : Operand} (h : r.Says op o) {rest : List Char}
    (hrest : Ends rest) : Lexes (o.chars op ++ rest) (o.tokens op) rest := by
  match o, h with
  | .field f, h => exact lexes_word h.1 hrest
  | .rule name, h => exact lexes_word h.1 hrest
  | .literal (.text s), _ => exact lexes_quoted s rest
  | .literal (.pattern p), h =>
    simp only [Operand.chars, Literal.chars, Operand.tokens, Literal.tokens]
    split_ifs with hop
    · exact lexes_quoted p.source rest
    · exact lexes_slashed (h.2.resolve_left hop) rest
  | .literal (.date d), _ => exact lexes_quoted d.canonical rest
  | .literal (.number .nan), _ => exact lexes_nan hrest
  | .literal (.number (.infinite negative)), _ => exact lexes_number (by simp) hrest
  | .literal (.number (.finite negative m)), _ => exact lexes_number (by simp) hrest
  | .literal (.boolean b), _ => exact lexes_boolean b hrest
  | .literal (.set values), _ =>
    simp only [Operand.chars, Literal.chars, Operand.tokens, Literal.tokens, List.cons_append,
      List.append_assoc, List.nil_append]
    have hopen := lexes_leftBracket (members values ++ ']' :: rest)
    exact hopen.append ((lexes_members values _).append (lexes_rightBracket rest))

theorem lexes_comparison {r : Reader} {c : Comparison} (hl : r.Says c.op c.left)
    (hr : r.Says c.op c.right) {rest : List Char} (hrest : Ends rest) :
    Lexes (c.chars ++ rest) c.tokens rest := by
  simp only [Comparison.chars, Comparison.tokens, List.append_assoc, List.cons_append]
  have hleft := lexes_operand hl (ends_cons (.inl rfl)
    (c.op.label.toList ++ ' ' :: (c.right.chars c.op ++ rest)))
  have hop := lexes_comparator c.op (c.right.chars c.op ++ rest)
  have hright := lexes_operand hr hrest
  exact hleft.append ((lexes_blank _).append (hop.append ((lexes_blank _).append hright)))

theorem ends_restChars (op : Connective) (nodes : List Node) {rest : List Char} (hrest : Ends rest) :
    Ends (restChars op nodes ++ rest) := by
  cases nodes with
  | nil => exact hrest
  | cons node nodes =>
    rw [restChars]
    exact ends_cons (.inl rfl) _

/-- Parentheses around what is read in front of the closing one. -/
theorem lexes_grouped (inside : Bool) {cs : List Char} {ts : List Token} {rest : List Char}
    (h : ∀ rest, Ends rest → Lexes (cs ++ rest) ts rest) (hrest : Ends rest) :
    Lexes (grouped inside cs ++ rest) (groupedTokens inside ts) rest := by
  cases inside with
  | false => exact h rest hrest
  | true =>
    simp only [grouped, groupedTokens, if_true, List.cons_append, List.append_assoc, List.nil_append]
    have hbody := h (')' :: rest) (ends_cons (.inr (.inl rfl)) rest)
    exact (lexes_leftParen _).append (hbody.append (lexes_rightParen rest))

section

variable {r : Reader}

mutual

theorem lexes_node : ∀ (n : Node), (∀ leaf ∈ n.leaves, r.Names leaf) →
    ∀ rest, Ends rest → Lexes (n.chars ++ rest) n.tokens rest
  | .expression op negated first rest', h, rest, hrest => by
    simp only [Node.leaves, List.forall_mem_append] at h
    have hbody : ∀ rest, Ends rest →
        Lexes (grouped first.isPlain first.chars ++ restChars op rest' ++ rest)
          (groupedTokens first.isPlain first.tokens ++ restTokens op rest') rest := by
      intro rest hrest
      rw [List.append_assoc]
      exact (lexes_grouped first.isPlain (lexes_node first h.1) (ends_restChars op rest' hrest)).append
        (lexes_rest op rest' h.2 rest hrest)
    cases negated with
    | false => exact hbody rest hrest
    | true =>
      simp only [Node.chars, Node.tokens, if_true, List.cons_append]
      rw [List.append_assoc _ [')'] rest]
      have hclose := hbody (')' :: rest) (ends_cons (.inr (.inl rfl)) rest)
      exact (lexes_bang _).append ((lexes_leftParen _).append (hclose.append (lexes_rightParen rest)))
  | .comparison c, h, rest, hrest => by
    obtain ⟨hl, hr⟩ := h (.comparison c) List.mem_cons_self
    exact lexes_comparison hl hr hrest
  | .search term, _, rest, _ => lexes_quoted term rest
  | .alias name, h, rest, hrest => by
    have hname : IsStored name := h (.alias name) List.mem_cons_self
    rw [Node.chars, Node.tokens, hname.sanitize]
    exact lexes_alias hname hrest

theorem lexes_rest (op : Connective) : ∀ (nodes : List Node), (∀ leaf ∈ leavesAll nodes, r.Names leaf) →
    ∀ rest, Ends rest → Lexes (restChars op nodes ++ rest) (restTokens op nodes) rest
  | [], _, rest, _ => .nil rest
  | node :: nodes, h, rest, hrest => by
    simp only [leavesAll, List.forall_mem_append] at h
    simp only [restChars, restTokens, List.cons_append, List.append_assoc]
    have hop := lexes_connective op
      (grouped node.isPlain node.chars ++ (restChars op nodes ++ rest))
    have hnode := lexes_grouped node.isPlain (lexes_node node h.1)
      (ends_restChars op nodes hrest)
    exact (lexes_blank _).append (hop.append ((lexes_blank _).append (hnode.append
      (lexes_rest op nodes h.2 rest hrest))))

end

end

end LogQuery.Filter
