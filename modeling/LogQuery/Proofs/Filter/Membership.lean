import LogQuery.Proofs.Filter.OperatorLaws
import LogQuery.Proofs.Number.Distinct

/-!
# Proofs.Filter.Membership — members of sets and equal values

A set holds texts: the numbers in it are written in their canonical form when the set is read, and the text of
a field is looked for among them. The canonical texts tell numbers apart as far as their values do, so that
this is the same as comparing the field with every element.

* `exists_elements_of_operand`: what is read as a set, element by element.
* `InSet`, `inSet_field`: both operators and both orders of the sides ask the same question.
* `any_canonical_iff`: a number has the text of a member if it is equal to one.
* `membership_eq_equality`: sets of numbers and sets of texts that are read.
-/

namespace LogQuery.Filter

/-! ## The elements of a set that is read -/

/-- The elements stand between commas, and each of them is a member. -/
theorem Members.exists_elements {ts : List Token} {members : List String} (h : Members ts members) :
    ∃ elements, elements ≠ [] ∧ ts = elements.intersperse .comma ∧
      elements.map Token.member? = members.map some := by
  induction h with
  | @last t member h => exact ⟨[t], List.cons_ne_nil t [], rfl, congrArg (fun m => [m]) h⟩
  | @more t member ts members h _ ih =>
    obtain ⟨elements, hne, rfl, hmembers⟩ := ih
    obtain ⟨u, us, rfl⟩ := List.exists_cons_of_ne_nil hne
    refine ⟨t :: u :: us, List.cons_ne_nil t _, rfl, ?_⟩
    rw [List.map_cons, h, hmembers, List.map_cons]

/-- A set that is read stands between brackets. -/
theorem exists_elements_of_operand {r : Reader} {t : Located} {ts rest : List Located} {members : List String}
    (h : r.operand t ts = .ok (.literal (.set members), rest)) : ∃ elements : List Token,
      tokensOf (t :: ts) = .leftBracket :: elements.intersperse .comma ++ .rightBracket :: tokensOf rest ∧
        elements.map Token.member? = members.map some := by
  obtain ⟨us, heq, hderives⟩ := operand_ok_iff.mp h
  rw [heq, tokensOf_append]
  generalize tokensOf us = tokens at hderives
  cases hderives with
  | emptySet => exact ⟨[], rfl, rfl⟩
  | set hmembers =>
    obtain ⟨elements, -, rfl, hmap⟩ := hmembers.exists_elements
    exact ⟨elements, by simp, hmap⟩

/-- No number of a text is a NaN. -/
theorem ne_nan_of_mem_tokens {text : String} {located : List Located} (h : lex 0 text.toList = .ok located)
    {n : Number} (hn : .number n ∈ tokensOf located) : n ≠ .nan :=
  lex_proper h (.number n) hn

theorem mem_intersperse {elements : List Token} {sep t : Token} (h : t ∈ elements) :
    t ∈ elements.intersperse sep := by
  induction elements with
  | nil => exact h
  | cons u us ih =>
    cases us with
    | nil => exact h
    | cons v vs =>
      rw [List.intersperse_cons_cons]
      rcases List.mem_cons.mp h with rfl | h
      · exact List.mem_cons_self
      · exact List.mem_cons_of_mem _ (List.mem_cons_of_mem _ (ih h))

/-! ## Asking for a member -/

/-- Whichever operator is used and on whichever side the set stands, it is asked for the side with one verdict. -/
structure InSet (side : Side) (members : List String) (verdict : Bool) : Prop where
  isIn : compare .isIn side (.literal (.set members)) = .ok verdict
  contains : compare .contains side (.literal (.set members)) = .ok verdict
  isIn_swapped : compare .isIn (.literal (.set members)) side = .ok verdict
  contains_swapped : compare .contains (.literal (.set members)) side = .ok verdict

/-- The text of a field is looked for, with the regard to case that the field has. -/
theorem inSet_field (name : String) (f : ResolvedField) (members : List String) :
    InSet (.field name f) members (members.any fun m => textEq (effectiveType f) f.value.render m) :=
  ⟨rfl, rfl, rfl, rfl⟩

section

variable {name : String} {f : ResolvedField}

/-- A field that is compared as a number is equal to the numbers of the same value. -/
theorem compare_equal_number {v : Number} (hv : f.value = .number v) (htype : effectiveType f = .number)
    (n : Number) : compare .equal (.field name f) (.literal (.number n)) = .ok (v.compare? n == some .eq) := by
  have hnumber : numberOf name f.value = .ok v := by rw [hv]; rfl
  rw [compare, compareField_number htype rfl, compareNumber_relation hnumber rfl]
  rfl

/-- A field that is compared as a text is equal to a text with the regard to case that the field has. -/
theorem compare_equal_text {s : String} (hs : f.value = .text s) (htype : effectiveType f = .text ∨
    effectiveType f = .textIgnoreCase) (t : String) :
    compare .equal (.field name f) (.literal (.text t)) = .ok (textEq (effectiveType f) s t) := by
  rcases htype with htype | htype <;> simp only [compare, compareField, effectiveLiteral, htype, hs] <;> rfl

end

/-- A number has the text of a member if it is equal to one. -/
theorem any_canonical_iff {ns : List Number} (hns : ∀ n ∈ ns, n ≠ .nan) (v : Number) :
    ((ns.map Number.canonical).any fun m => textEq .number v.canonical m) = true ↔
      ∃ n ∈ ns, v.compare? n = some .eq := by
  have htext : ∀ m, textEq .number v.canonical m = (v.canonical == m) := fun m => if_neg (by decide)
  simp only [List.any_eq_true, List.mem_map, exists_exists_and_eq_and, htext, beq_iff_eq]
  exact exists_congr fun n => and_congr_right fun hn => Number.canonical_eq_iff_equal (hns n hn)

/-! ## Membership is equality with an element -/

/-- **Membership in a set is equality with one of its elements.** Let a set be read at some place of a text.
It has texts and numbers as elements, and every field, whatever its value and its declared type, is asked for
with one verdict, by both operators and from both sides. Beside numbers, the verdict on a number is that some
element is equal to it; beside texts, so is the verdict on a text, with or without regard to case. -/
theorem membership_eq_equality {r : Reader} {text : String} {located : List Located}
    (hlex : lex 0 text.toList = .ok located) {t : Located} {ts rest : List Located} (hplace : t :: ts <:+ located)
    {members : List String} (hread : r.operand t ts = .ok (.literal (.set members), rest)) :
    ∃ elements : List Token,
      tokensOf (t :: ts) = .leftBracket :: elements.intersperse .comma ++ .rightBracket :: tokensOf rest ∧
      elements.map Token.member? = members.map some ∧
      ∀ (name : String) (f : ResolvedField), ∃ verdict, InSet (.field name f) members verdict ∧
        (∀ (ns : List Number) (v : Number), elements = ns.map .number → f.value = .number v →
          f.declared = .number ∨ f.declared = .dynamic →
          (verdict = true ↔ ∃ n ∈ ns, compare .equal (.field name f) (.literal (.number n)) = .ok true)) ∧
        ∀ (words : List String) (s : String), elements = words.map .text → f.value = .text s →
          f.declared = .text ∨ f.declared = .textIgnoreCase →
          (verdict = true ↔ ∃ word ∈ words, compare .equal (.field name f) (.literal (.text word)) = .ok true) := by
  obtain ⟨elements, htokens, hmembers⟩ := exists_elements_of_operand hread
  refine ⟨elements, htokens, hmembers, fun name f => ⟨_, inSet_field name f members, ?numbers, ?texts⟩⟩
  case numbers =>
    rintro ns v rfl hv hdeclared
    have htype : effectiveType f = .number := by
      rcases hdeclared with hdeclared | hdeclared <;> simp [effectiveType, hdeclared, hv, FieldValue.naturalType]
    obtain rfl : members = ns.map Number.canonical := by
      refine (List.map_injective_iff.mpr (Option.some_injective String)) ?_
      simpa [Token.member?, Function.comp_def] using hmembers.symm
    have hns : ∀ n ∈ ns, n ≠ .nan := by
      intro n hn
      refine ne_nan_of_mem_tokens hlex ((hplace.sublist.map Located.token).subset ?_)
      rw [← tokensOf, htokens]
      exact List.mem_append_left _ (List.mem_cons_of_mem _ (mem_intersperse (List.mem_map_of_mem hn)))
    simp only [htype, hv, FieldValue.render, any_canonical_iff hns, compare_equal_number hv htype,
      Except.ok.injEq, beq_iff_eq]
  case texts =>
    rintro words s rfl hs hdeclared
    have htype : effectiveType f = f.declared := by
      rcases hdeclared with hdeclared | hdeclared <;> simp [effectiveType, hdeclared]
    obtain rfl : members = words := by
      refine (List.map_injective_iff.mpr (Option.some_injective String)) ?_
      simpa [Token.member?, Function.comp_def] using hmembers.symm
    simp only [compare_equal_text hs (htype ▸ hdeclared), Except.ok.injEq, List.any_eq_true, hs, FieldValue.render]

/-- A negative zero and a number above the range, in a set of a filter. -/
def outerNumbers : List Number := [.finite true .zero, .infinite false]

/-- The tokens of the set, behind its opening bracket. -/
def outerNumbersTokens : List Located :=
  [⟨.number (.finite true .zero), 9⟩, ⟨.comma, 11⟩, ⟨.number (.infinite false), 13⟩, ⟨.rightBracket, 18⟩]

/-- The positive zero is a member, as it is equal to the negative one. -/
theorem membership_eq_equality_zero :
    let r := Reader.mk (fun _ => some .number) none 64
    let located := ⟨.word "took", 0⟩ :: ⟨.comparator .isIn, 5⟩ :: ⟨.leftBracket, 8⟩ :: outerNumbersTokens
    let took := Side.field "took" ⟨.number .zero, .number⟩
    lex 0 "took IN [-0, 1e999]".toList = .ok located ∧
      r.operand ⟨.leftBracket, 8⟩ outerNumbersTokens = .ok (.literal (.set ["0", "inf"]), []) ∧
      InSet took ["0", "inf"] true ∧
      ∃ n ∈ outerNumbers, compare .equal took (.literal (.number n)) = .ok true := by
  intro r located took
  have hlex : lex 0 "took IN [-0, 1e999]".toList = .ok located := by cbv
  have hread : r.operand ⟨.leftBracket, 8⟩ outerNumbersTokens = .ok (.literal (.set ["0", "inf"]), []) := by cbv
  have hplace : ⟨.leftBracket, 8⟩ :: outerNumbersTokens <:+ located :=
    ⟨[⟨.word "took", 0⟩, ⟨.comparator .isIn, 5⟩], rfl⟩
  obtain ⟨elements, htokens, hmembers, hfield⟩ := membership_eq_equality hlex hplace hread
  obtain ⟨a, b, rfl⟩ : ∃ a b, elements = [a, b] := by
    have hlength := congrArg List.length hmembers
    rw [List.length_map, List.length_map] at hlength
    exact List.length_eq_two.mp hlength
  obtain ⟨verdict, hset, hnumbers, -⟩ := hfield "took" ⟨.number .zero, .number⟩
  have helements : [a, b] = outerNumbers.map .number := by
    simp [outerNumbersTokens] at htokens
    rw [← htokens.1, ← htokens.2]
    rfl
  obtain rfl : verdict = true := by
    have hin : compare .isIn took (.literal (.set ["0", "inf"])) = .ok true := by cbv
    exact Except.ok.inj (hset.isIn.symm.trans hin)
  exact ⟨hlex, hread, hset, (hnumbers _ _ helements rfl (.inl rfl)).mp rfl⟩

end LogQuery.Filter
