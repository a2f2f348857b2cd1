import LogQuery.Proofs.Filter.Spelling

/-!
# Proofs.Filter.Slashes — patterns between slashes are read back

The writer escapes every bare slash and keeps what is escaped already; the reader takes the backslash from an
escaped slash and keeps all others. Both count backslashes in pairs from the left, so that they agree on which
slash is escaped, however many backslashes stand before it.

* `complete_or_lone`: a source is complete, or its last backslash has nothing to escape.
* `lex_slashed`, `lex_slashed_lone`: what is written of either of them is read as.
* `paired_iff_lexed`: the sources that a pattern between slashes can have.
* `slashed_exact`: which sources are read back, and as what.
-/

namespace LogQuery.Filter

/-! ## Backslashes in pairs -/

theorem complete_escape_iff {c : Char} {cs : List Char} : Complete ('\\' :: c :: cs) ↔ Complete cs := by
  refine ⟨fun h => ?_, .escape c⟩
  cases h with
  | escape _ h => exact h
  | bare hc _ => exact absurd rfl hc

theorem complete_bare_iff {c : Char} (hc : c ≠ '\\') {cs : List Char} : Complete (c :: cs) ↔ Complete cs := by
  refine ⟨fun h => ?_, .bare hc⟩
  cases h with
  | escape => exact absurd rfl hc
  | bare _ h => exact h

theorem not_complete_lone : ¬ Complete ['\\'] := by
  intro h
  cases h with
  | bare hc => exact hc rfl

instance decidableComplete : DecidablePred Complete
  | [] => .isTrue .nil
  | [c] => if hc : c = '\\' then .isFalse (hc ▸ not_complete_lone) else .isTrue (.bare hc .nil)
  | c :: d :: cs =>
    if hc : c = '\\' then
      have := decidableComplete cs
      decidable_of_iff _ (hc ▸ complete_escape_iff).symm
    else
      have := decidableComplete (d :: cs)
      decidable_of_iff _ (complete_bare_iff hc).symm

/-- A backslash that has nothing to escape stands at the end, behind complete characters. -/
theorem complete_or_lone (cs : List Char) : Complete cs ∨ ∃ front, Complete front ∧ cs = front ++ ['\\'] := by
  induction cs using List.twoStepInduction with
  | nil => exact .inl .nil
  | singleton c =>
    by_cases hc : c = '\\'
    · exact .inr ⟨[], .nil, by rw [hc, List.nil_append]⟩
    · exact .inl (.bare hc .nil)
  | cons_cons c d cs ihRest ihNext =>
    by_cases hc : c = '\\'
    · subst hc
      rcases ihRest with h | ⟨front, h, rfl⟩
      · exact .inl (.escape d h)
      · exact .inr ⟨'\\' :: d :: front, .escape d h, rfl⟩
    · rcases ihNext d with h | ⟨front, h, heq⟩
      · exact .inl (.bare hc h)
      · exact .inr ⟨c :: front, .bare hc h, by rw [heq, List.cons_append]⟩

/-- What is written of complete characters does not depend on what follows. -/
theorem slashedBody_append {cs : List Char} (h : Complete cs) (ds : List Char) :
    slashedBody (cs ++ ds) = slashedBody cs ++ slashedBody ds := by
  induction h with
  | nil => rfl
  | escape c _ ih =>
    rw [List.cons_append, List.cons_append, slashedBody, slashedBody, ih]
    rfl
  | bare hc _ ih =>
    rw [List.cons_append, slashedBody_bare hc, slashedBody_bare hc, ih]
    split_ifs <;> rfl

/-! ## What is read -/

section

variable {source : String}

/-- A complete source is one token, which loses the backslashes in front of slashes. -/
theorem lex_slashed (h : Complete source.toList) :
    lex 0 (slashed source) = .ok [⟨.pattern (String.ofList (bareSlashes source.toList)), 0⟩] := by
  obtain ⟨offset', hscan⟩ := scan_slashed h 0 []
  rw [slashed, List.cons_append, lex_cons (by decide), hscan]
  show (lex offset' []).map _ = _
  rw [lex]
  rfl

/-- A lone backslash escapes the slash that should close the pattern. -/
theorem lex_slashed_lone (h : ¬ Complete source.toList) :
    lex 0 (slashed source) = .error (.unterminated .pattern 0) := by
  obtain ⟨front, hfront, hsource⟩ := (complete_or_lone source.toList).resolve_left h
  obtain ⟨offset', hread⟩ := patternFrom_slashedBody hfront 0 (0 + '/'.utf8Size)
  have hscan : scan 0 '/' ⟨0 + '/'.utf8Size, slashedBody source.toList ++ ['/']⟩ =
      .error (.unterminated .pattern 0) := by
    show (patternFrom 0 _ _).map _ = _
    rw [hsource, slashedBody_append hfront, List.append_assoc, hread]
    show (Except.map _ (patternFrom 0 offset' ['\\', '/'])).map _ = _
    rw [patternFrom_escape, patternFrom]
    rfl
  rw [slashed, List.cons_append, lex_cons (by decide), hscan]
  rfl

/-- The sources of patterns between slashes have no backslash in front of a slash, and all others are sources. -/
theorem paired_iff_lexed : Paired source.toList ↔
    ∃ (text : String) (ts : List Located), lex 0 text.toList = .ok ts ∧ .pattern source ∈ tokensOf ts := by
  constructor
  · intro h
    have hproper : ∀ t ∈ [Token.pattern source], t.Proper := List.forall_mem_singleton.mpr h
    obtain ⟨text, ts, hlex, htokens⟩ := exists_lex_iff.mpr hproper
    exact ⟨text, ts, hlex, htokens ▸ List.mem_singleton_self _⟩
  · rintro ⟨text, ts, hlex, hmem⟩
    exact lex_proper hlex _ hmem

end

/-- **Patterns between slashes are read back.** If every backslash of a source stands in front of a character,
counted in pairs from the left, then what is written of the source is one token, whose source has a bare slash for
each escaped one and is the same in all else. If the last backslash is alone, it escapes the closing slash, and the
pattern does not end. The sources that are read back as they are are exactly those that a pattern between
slashes can have. -/
theorem slashed_exact (source : String) :
    (Complete source.toList →
      lex 0 (slashed source) = .ok [⟨.pattern (String.ofList (bareSlashes source.toList)), 0⟩]) ∧
    (¬ Complete source.toList → lex 0 (slashed source) = .error (.unterminated .pattern 0)) ∧
    ((∃ (text : String) (ts : List Located), lex 0 text.toList = .ok ts ∧ .pattern source ∈ tokensOf ts) ↔
      lex 0 (slashed source) = .ok [⟨.pattern source, 0⟩]) := by
  refine ⟨lex_slashed, lex_slashed_lone, fun h => ?_, fun h => ?_⟩
  · obtain ⟨hcomplete, hbare⟩ := paired_iff.mp (paired_iff_lexed.mpr h)
    rw [lex_slashed hcomplete, hbare, String.ofList_toList]
  · exact ⟨String.ofList (slashed source), _, by rw [String.toList_ofList, h], List.mem_singleton_self _⟩

/-- An escaped slash, a bare one, and two behind runs of backslashes; with one more backslash at the end the
pattern does not end. -/
theorem slashed_exact_runs :
    Complete "a\\/b/c\\\\/d\\\\\\/".toList ∧
    lex 0 (slashed "a\\/b/c\\\\/d\\\\\\/") = .ok [⟨.pattern "a/b/c\\\\/d\\\\/", 0⟩] ∧
    ¬ Complete "a\\/b/c\\\\/d\\\\\\/\\".toList ∧
    lex 0 (slashed "a\\/b/c\\\\/d\\\\\\/\\") = .error (.unterminated .pattern 0) := by
  have hcomplete : Complete "a\\/b/c\\\\/d\\\\\\/".toList := by decide
  have hlone : ¬ Complete "a\\/b/c\\\\/d\\\\\\/\\".toList := by decide
  exact ⟨hcomplete, (slashed_exact _).1 hcomplete, hlone, (slashed_exact _).2.1 hlone⟩

end LogQuery.Filter
