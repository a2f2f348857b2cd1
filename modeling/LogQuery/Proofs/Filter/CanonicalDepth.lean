import LogQuery.Proofs.Filter.Levels
import LogQuery.Proofs.Filter.RoundTrip

/-!
# Proofs.Filter.CanonicalDepth — the limit that a canonical text needs

The canonical text puts what a negation negates into a group, and every chain inside another one. Each
such group takes a level that the text which was read need not have taken, so a limit that admits a
filter may be too low for its canonical text. Twice the limit is enough.

* `canonical_tooDeep`: the limits at which the canonical text is too deep, and how far they go.
* `canonical_exceeds_limit`: a text that is read, and whose canonical text is not.
-/

namespace LogQuery.Filter

/-- The tokens of the canonical text of a tree that was read. -/
theorem lex_canonical {r : Reader} {text : String} {t : Node} (h : r.read text = .ok t) :
    ∃ ts, lex 0 t.canonical.toList = .ok ts ∧ nesting (tokensOf ts) = t.rootNeed := by
  have hlex := lexes_node t (read_names h) [] ends_nil
  rw [List.append_nil] at hlex
  obtain ⟨ts, htokens, hts⟩ := hlex.ok 0
  refine ⟨ts, ?_, ?_⟩
  · rw [Node.toList_canonical, hts]
  · rw [tokensOf, htokens, nesting_tokens]

/-- **The limit that a canonical text needs.** For a tree that was read with `d` levels, the canonical
text is too deep for a limit `k` only if the tree needs more than `k` levels, and then it is, provided
that it can be read with any limit at all. The tree never needs more than `2 * d` levels. -/
theorem canonical_tooDeep {catalog : Catalog} {registry : Option Registry} {d : ℕ} (hd : 1 ≤ d)
    {text : String} {t : Node} (h : (Reader.mk catalog registry d).read text = .ok t) :
    (∀ k, 1 ≤ k → TooDeep ((Reader.mk catalog registry k).read t.canonical) → k < t.rootNeed) ∧
    (∀ k, 1 ≤ k → k < t.rootNeed →
      (∃ d' t', (Reader.mk catalog registry d').read t.canonical = .ok t') →
        TooDeep ((Reader.mk catalog registry k).read t.canonical)) ∧
    t.rootNeed ≤ 2 * d := by
  obtain ⟨ts, hlex, hnesting⟩ := lex_canonical h
  refine ⟨fun k hk hdeep => ?_, ?_, ?_⟩
  · have hlt := lt_nesting_of_read hlex hdeep
    rw [hnesting] at hlt
    exact (le_max_left k 1).trans_lt hlt
  · rintro k hk hlt ⟨d', t', hread⟩
    -- with enough levels for both limits, the text is read as with `d'`
    have hmore := (read_upTo (le_max_right k d') t.canonical).resolve_left (by rw [hread]; exact not_tooDeep_ok t')
    refine (read_upTo (le_max_left k d') t.canonical).resolve_right fun heq => ?_
    obtain ⟨us, n, hus, hle, -⟩ := read_ok_iff.mp ((heq.trans hmore.symm).trans hread)
    obtain rfl : ts = us := Except.ok.inj (hlex.symm.trans hus)
    rw [hnesting] at hle
    have hmax : max k 1 = k := max_eq_left hk
    exact absurd (hle.trans_eq hmax) (Nat.not_le.mpr hlt)
  · obtain ⟨n, rfl, -, -, hroot⟩ := read_sound h
    have hmax : max d 1 = d := max_eq_left hd
    rw [hmax] at hroot
    exact rootNeed_asExpression (by omega) hroot

/-- A negated search for a text, which is written with a group. -/
def negatedSearch : Node := .expression .and true (.search "error") []

theorem canonical_tooDeep_negatedSearch :
    1 ≤ 2 ∧ (Reader.mk (fun _ => none) none 2).read "!'error'" = .ok negatedSearch ∧
      TooDeep ((Reader.mk (fun _ => none) none 2).read negatedSearch.canonical) := by
  have hread : (Reader.mk (fun _ => none) none 2).read "!'error'" = .ok negatedSearch := by cbv
  have hcanonical : (Reader.mk (fun _ => none) none 3).read negatedSearch.canonical = .ok negatedSearch := by cbv
  exact ⟨by decide, hread, (canonical_tooDeep (by decide) hread).2.1 2 (by decide) (by decide) ⟨3, _, hcanonical⟩⟩

/-- **A limit that admits a filter need not admit its canonical text**: two levels are enough for a
negated search, and not for the group that it is written with. -/
theorem canonical_exceeds_limit :
    ¬ ∀ (catalog : Catalog) (registry : Option Registry) (d : ℕ) (text : String) (t : Node), 1 ≤ d →
      (Reader.mk catalog registry d).read text = .ok t →
        ¬ TooDeep ((Reader.mk catalog registry d).read t.canonical) := by
  intro h
  have hread : (Reader.mk (fun _ => none) none 2).read "!\"error\"" = .ok negatedSearch := by cbv
  have hdeep : (Reader.mk (fun _ => none) none 2).read negatedSearch.canonical = .error (.tooDeep 2 2) := by cbv
  exact h (fun _ => none) none 2 _ _ (by decide) hread ⟨2, 2, hdeep⟩

end LogQuery.Filter
