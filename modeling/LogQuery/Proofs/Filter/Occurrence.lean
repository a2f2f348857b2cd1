import LogQuery.Filter.Evaluate
import LogQuery.Proofs.Text.Lowercase

/-!
# Proofs.Filter.Occurrence — terms that are found without regard to case

A search, and `CONTAINS` beside a field that ignores case, bring the whole text and the term to lower case and look
for the one in the other. A term that occurs as it is written may get lost: the form of a capital sigma in lower case
depends on the characters around it, and around the occurrence they are others than around the term.

* `evaluate_search`, `compare_contains`: what a search and a `CONTAINS` between texts look for.
* `SearchKeeps`, `ContainsKeeps`: a term is found in every text in which it occurs as it is written.
* `occurrence_kept_iff`: these are exactly the self-contained terms, and any other term is found at each occurrence
  that keeps the forms of its sigmas.
* `occurrence_lost`: `ΑΣ` occurs in `ΑΣΑ` and is not found there.
-/

namespace LogQuery.Filter

open LogQuery.Text

/-! ## What is looked for -/

/-- A search records nothing. -/
theorem evaluate_search {ρ : Type} (e : Evaluator ρ) (term : String) (record : ρ) :
    e.evaluate (.search term) record = (e.searchText record term, {}) := by
  have hlimit : e.limit ≠ 0 := (Nat.lt_of_lt_of_le Nat.one_pos (Nat.le_max_right _ _)).ne'
  obtain ⟨levels, hlevels⟩ := Nat.exists_eq_succ_of_ne_zero hlimit
  rw [Evaluator.evaluate, hlevels, Evaluator.visit]
  rfl

/-- Between texts, `CONTAINS` is decided by the declared type of the field. -/
theorem compare_contains {declared : FieldType} (hdeclared : declared = .text ∨ declared = .textIgnoreCase)
    (name text term : String) : compare .contains (.field name ⟨.text text, declared⟩) (.literal (.text term)) =
      .ok (textContains declared text term) := by
  rcases hdeclared with rfl | rfl <;> rfl

theorem contains_iff {text term : String} : Text.contains text term = true ↔ term.toList <:+: text.toList :=
  occursIn_iff

theorem contains_lower_iff {text term : String} :
    Text.contains (lower text) (lower term) = true ↔ lowerChars term.toList <:+: lowerChars text.toList := by
  rw [contains_iff, toList_lower, toList_lower]

/-! ## Terms that are found wherever they occur -/

/-- A search for the term accepts, without an error, every record in whose text it occurs. -/
def SearchKeeps (term : String) : Prop :=
  ∀ (ρ : Type) (e : Evaluator ρ) (record : ρ), Text.contains (e.resolver.fullText record) term = true →
    e.evaluate (.search term) record = (true, {})

/-- If a field contains the term as a text, it does so as a text that ignores case. -/
def ContainsKeeps (term : String) : Prop :=
  ∀ name text, compare .contains (.field name ⟨.text text, .text⟩) (.literal (.text term)) = .ok true →
    compare .contains (.field name ⟨.text text, .textIgnoreCase⟩) (.literal (.text term)) = .ok true

/-- The term is kept in lower case, wherever it occurs. -/
def LowerKeeps (term : String) : Prop :=
  ∀ text, Text.contains text term = true → Text.contains (lower text) (lower term) = true

theorem lowerKeeps_iff {term : String} : LowerKeeps term ↔ SelfContained term.toList := by
  rw [← infix_lowerChars_iff]
  constructor
  · intro h text htext
    have hlower := h (String.ofList text)
    rw [contains_iff, contains_lower_iff, String.toList_ofList] at hlower
    exact hlower htext
  · intro h text htext
    exact contains_lower_iff.mpr (h text.toList (contains_iff.mp htext))

/-- Records that are texts without fields. -/
def textRecords : Evaluator String := ⟨⟨fun _ _ => none, id⟩, .empty, defaultDepth⟩

theorem searchKeeps_iff {term : String} : SearchKeeps term ↔ LowerKeeps term := by
  constructor
  · intro h text htext
    have hfound := h String textRecords text htext
    rw [evaluate_search] at hfound
    exact congrArg Prod.fst hfound
  · intro h ρ e record htext
    rw [evaluate_search, Evaluator.searchText, h _ htext]

theorem containsKeeps_iff {term : String} : ContainsKeeps term ↔ LowerKeeps term := by
  unfold ContainsKeeps
  simp only [compare_contains (.inl rfl), compare_contains (.inr rfl), Except.ok.injEq]
  exact ⟨fun h => h "", fun h _ => h⟩

/-- A search finds the term in the text, and so does a `CONTAINS` that ignores case. -/
structure FoundInText (term text : String) : Prop where
  search : ∀ (ρ : Type) (e : Evaluator ρ) (record : ρ), e.resolver.fullText record = text →
    e.evaluate (.search term) record = (true, {})
  contains : ∀ name,
    compare .contains (.field name ⟨.text text, .textIgnoreCase⟩) (.literal (.text term)) = .ok true

theorem foundInText_of_contains {term text : String} (h : Text.contains (lower text) (lower term) = true) :
    FoundInText term text where
  search ρ e record hfull := by rw [evaluate_search, Evaluator.searchText, hfull, h]
  contains name := by rw [compare_contains (.inr rfl), textContains, if_pos rfl, h]

/-- **Occurrences that are kept.** A search, and a `CONTAINS` that ignores case, find a term in every text in which it
occurs as it is written if and only if the term is self-contained. Any other term they find in a text if it occurs
there with its sigmas in the form that they have in the term by itself. -/
theorem occurrence_kept_iff (term : String) :
    (SearchKeeps term ↔ SelfContained term.toList) ∧ (ContainsKeeps term ↔ SelfContained term.toList) ∧
      ∀ text before after, text.toList = before ++ term.toList ++ after → SigmasKept before term.toList after →
        FoundInText term text := by
  refine ⟨searchKeeps_iff.trans lowerKeeps_iff, containsKeeps_iff.trans lowerKeeps_iff, ?_⟩
  intro text before after htext hkept
  refine foundInText_of_contains (contains_lower_iff.mpr ?_)
  rw [htext]
  exact hkept.infix_lowerChars

/-- A term without a sigma is found everywhere, and `ΑΣ` where it ends a word. -/
theorem occurrence_kept_word :
    SearchKeeps "boot" ∧ ContainsKeeps "boot" ∧ "ΤΑΣ.".toList = ['Τ'] ++ "ΑΣ".toList ++ ['.'] ∧
      SigmasKept ['Τ'] "ΑΣ".toList ['.'] ∧ FoundInText "ΑΣ" "ΤΑΣ." := by
  have hboot : SelfContained "boot".toList := selfContained_of_notMem (by decide)
  have htext : "ΤΑΣ.".toList = ['Τ'] ++ "ΑΣ".toList ++ ['.'] := by decide
  have hkept : SigmasKept ['Τ'] "ΑΣ".toList ['.'] := by
    intro u v huv
    have hchars : u ++ 'Σ' :: v = ['Α', 'Σ'] := huv.symm
    obtain ⟨w, rfl, htail⟩ : ∃ w, u = 'Α' :: w ∧ ['Σ'] = w ++ 'Σ' :: v := by
      simpa [List.append_eq_cons_iff] using hchars
    obtain ⟨rfl, rfl⟩ : w = [] ∧ v = [] := by
      simpa [List.append_eq_singleton_iff] using htail.symm
    decide +kernel
  exact ⟨(occurrence_kept_iff "boot").1.mpr hboot, (occurrence_kept_iff "boot").2.1.mpr hboot, htext, hkept,
    (occurrence_kept_iff "ΑΣ").2.2 _ _ _ htext hkept⟩

/-- The sigma of `ΑΣ` ends a word, that of `ΑΣΑ` does not. -/
theorem occurrence_lost :
    Text.contains "ΑΣΑ" "ΑΣ" = true ∧ textRecords.evaluate (.search "ΑΣ") "ΑΣΑ" = (false, {}) ∧
      compare .contains (.field "f" ⟨.text "ΑΣΑ", .text⟩) (.literal (.text "ΑΣ")) = .ok true ∧
      compare .contains (.field "f" ⟨.text "ΑΣΑ", .textIgnoreCase⟩) (.literal (.text "ΑΣ")) = .ok false := by
  decide +kernel

end LogQuery.Filter
