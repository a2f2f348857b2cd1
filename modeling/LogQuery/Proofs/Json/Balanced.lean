import LogQuery.Proofs.Json.Fold
import LogQuery.Proofs.Json.NumberText
import LogQuery.Proofs.Json.Quoted

/-!
# Proofs.Json.Balanced — texts in which all brackets are closed

The text of a value closes each bracket and each quote that it opens, in the right order. Brackets inside quotes
do not count, and a quote inside quotes has a backslash before it.

* `QuotedBody`: what stands between two quotes.
* `Balanced`: everything that is opened is closed.
* `balanced_tight`: the text of every value is closed.
-/

namespace LogQuery.Json

/-! ## Balanced texts -/

/-- What stands between two quotes: a backslash takes the next character with it. -/
inductive QuotedBody : List Char → Prop
  | nil : QuotedBody []
  | char {c : Char} {cs : List Char} (hc : c ∉ ['"', '\\']) (h : QuotedBody cs) : QuotedBody (c :: cs)
  | escape {c : Char} {cs : List Char} (h : QuotedBody cs) : QuotedBody ('\\' :: c :: cs)

/-- The characters that open or close something. -/
def marks : List Char := ['"', '\'', '{', '[', '}', ']']

/-- A text that closes what it opens. -/
inductive Balanced : List Char → Prop
  | nil : Balanced []
  | char {c : Char} {cs : List Char} (hc : c ∉ marks) (h : Balanced cs) : Balanced (c :: cs)
  | text {body cs : List Char} (hbody : QuotedBody body) (h : Balanced cs) : Balanced ('"' :: body ++ '"' :: cs)
  | brackets {inner cs : List Char} (hinner : Balanced inner) (h : Balanced cs) : Balanced ('[' :: inner ++ ']' :: cs)
  | braces {inner cs : List Char} (hinner : Balanced inner) (h : Balanced cs) : Balanced ('{' :: inner ++ '}' :: cs)

theorem Balanced.append {as bs : List Char} (has : Balanced as) (hbs : Balanced bs) : Balanced (as ++ bs) := by
  induction has with
  | nil => exact hbs
  | char hc _ ih => exact .char hc ih
  | text hbody _ ih =>
    rw [List.append_assoc]
    exact .text hbody ih
  | brackets hinner _ _ ih =>
    rw [List.append_assoc]
    exact .brackets hinner ih
  | braces hinner _ _ ih =>
    rw [List.append_assoc]
    exact .braces hinner ih

theorem balanced_of_forall {cs : List Char} (h : ∀ c ∈ cs, c ∉ marks) : Balanced cs := by
  induction cs with
  | nil => exact .nil
  | cons c cs ih => exact .char (h c List.mem_cons_self) (ih fun d hd => h d (List.mem_cons_of_mem c hd))

theorem balanced_commas {parts : List (List Char)} (h : ∀ p ∈ parts, Balanced p) : Balanced (commas parts) := by
  induction parts with
  | nil => exact .nil
  | cons p parts ih =>
    have hp : Balanced p := h p List.mem_cons_self
    have hrest := ih fun q hq => h q (List.mem_cons_of_mem p hq)
    cases parts with
    | nil => simpa [commas] using hp
    | cons q parts =>
      rw [commas_cons_cons]
      exact hp.append (.char (by decide) hrest)

/-! ## The text of a value -/

theorem quotedBody_quotedChar (c : Char) {cs : List Char} (h : QuotedBody cs) : QuotedBody (quotedChar c ++ cs) := by
  have hescaped := escaped_quotedChar c
  generalize quotedChar c = written at hescaped
  cases hescaped with
  | plain hquote hescape _ => exact .char (by simp [hquote, hescape]) h
  | short _ => exact .escape h
  | unit _ =>
    have hdigit : ∀ n, Nat.digitChar n ∉ ['"', '\\'] := by
      intro n
      have hquote : Nat.digitChar n ≠ '"' := Nat.digitChar_ne '"' (by decide)
      have hescape : Nat.digitChar n ≠ '\\' := Nat.digitChar_ne '\\' (by decide)
      simp [hquote, hescape]
    exact .escape (.char (by decide) (.char (by decide) (.char (hdigit _) (.char (hdigit _) h))))

theorem balanced_quoted (s : String) : Balanced (quoted s) := by
  have hbody : QuotedBody (s.toList.flatMap quotedChar) := by
    induction s.toList with
    | nil => exact .nil
    | cons c cs ih => exact quotedBody_quotedChar c ih
  exact .text hbody .nil

/-- The characters of numbers and words, apart from digits. -/
def bareMarks : List Char := ['-', '+', '.', 'e', 'n', 'u', 'l', 't', 'r', 'f', 'a', 's']

/-- The characters of the scalars that are no texts. -/
def IsBare (c : Char) : Prop := c.isDigit = true ∨ c ∈ bareMarks

theorem IsBare.ne {c d : Char} (hc : IsBare c) (hdigit : d.isDigit = false) (hd : d ∉ bareMarks) :
    c ≠ d := by
  rintro rfl
  rcases hc with hc | hc
  · rw [hdigit] at hc
    exact Bool.noConfusion hc
  · exact hd hc

theorem isBare_of_mem_scalar {x : Json} (hx : x.isScalar = true) (htext : ∀ s, x ≠ .text s) :
    ∀ c ∈ x.tight, IsBare c := by
  intro c hc
  rw [tight_scalar hx] at hc
  cases x with
  | array | object => exact nomatch hx
  | text s => exact absurd rfl (htext s)
  | null =>
    have hall : ∀ c ∈ ['n', 'u', 'l', 'l'], c ∈ bareMarks := by simp [bareMarks]
    exact .inr (hall c hc)
  | boolean b =>
    have htrue : ∀ c ∈ ['t', 'r', 'u', 'e'], c ∈ bareMarks := by simp [bareMarks]
    have hfalse : ∀ c ∈ ['f', 'a', 'l', 's', 'e'], c ∈ bareMarks := by simp [bareMarks]
    cases b
    exacts [.inr (hfalse c hc), .inr (htrue c hc)]
  | integer i =>
    rcases mem_integer hc with h | rfl
    exacts [.inl h, .inr (by decide)]
  | real negative m =>
    have hall : ∀ c ∈ ['.', 'e', '+', '-'], c ∈ bareMarks := by simp [bareMarks]
    exact (mem_real hc).imp_right (hall c)

/-- **The text of a value is closed.** -/
theorem balanced_tight (x : Json) : Balanced x.tight := by
  induction x using induct with
  | scalar x hx =>
    by_cases htext : ∃ s, x = .text s
    · obtain ⟨s, rfl⟩ := htext
      exact balanced_quoted s
    · refine balanced_of_forall fun c hc hmark => ?_
      have hbare := isBare_of_mem_scalar hx (fun s h => htext ⟨s, h⟩) c hc
      have hall : ∀ d ∈ marks, d.isDigit = false ∧ d ∉ bareMarks := by simp [bareMarks, marks]
      exact hbare.ne (hall c hmark).1 (hall c hmark).2 rfl
  | array items ih =>
    rw [tight_array]
    refine .brackets (balanced_commas fun p hp => ?_) .nil
    obtain ⟨x, hx, rfl⟩ := List.mem_map.mp hp
    exact ih x hx
  | object members ih =>
    rw [tight_object]
    refine .braces (balanced_commas fun p hp => ?_) .nil
    obtain ⟨m, hm, rfl⟩ := List.mem_map.mp hp
    exact (balanced_quoted m.1).append (.char (by decide) (ih m hm))

theorem balanced_tightMember (m : String × Json) : Balanced (tightMember m) :=
  (balanced_quoted m.1).append (.char (by decide) (balanced_tight m.2))

end LogQuery.Json
