import LogQuery.Proofs.Filter.Library
import LogQuery.Proofs.Text.Lowercase

/-!
# Proofs.Filter.SavedNames — the names that a saved filter answers to

A rule is stored under its stored name in lower case. References put a name into its stored form before it is
looked up, while `get?` and `remove` put it into lower case only. So a name that storing changes finds nothing
there, or another rule.

* `lower_sanitize_congr`: spellings in another case have one key.
* `lower_eq_lower_sanitize_iff`: the name as it is has this key if and only if storing it changes nothing.
* `answers_exact`: to which calls a rule answers under the name that it was added with.
-/

namespace LogQuery.Filter

/-- Storing does not change the name. -/
def IsName (name : String) : Prop := ∀ c ∈ name.toList, isNameChar c = true

/-! ## Letters in another case -/

theorem isNameChar_of_isAlpha {c : Char} (h : c.isAlpha = true) : isNameChar c = true := by
  simp [isNameChar, Char.isAlphanum, h]

theorem toNat_lt_of_isNameChar {c : Char} (h : isNameChar c = true) : c.toNat < 0x80 := by
  simp only [isNameChar, Char.isAlphanum, Char.isAlpha, Char.isUpper, Char.isLower, Char.isDigit, Bool.or_eq_true,
    Bool.and_eq_true, decide_eq_true_eq, beq_iff_eq, UInt32.le_iff_toNat_le, ge_iff_le] at h
  have hvalue : c.val.toNat = c.toNat := rfl
  rcases h with ((((h | h) | h) | rfl) | rfl)
  all_goals first | decide | (simp at h; omega)

/-- Only letters change, and they stay letters. -/
theorem toLower_eq_or_isAlpha (c : Char) : c.toLower = c ∨ c.isAlpha = true ∧ c.toLower.isAlpha = true := by
  by_cases h : c.isUpper = true
  · have halpha : c.isAlpha = true := by simp [Char.isAlpha, h]
    exact .inr ⟨halpha, (Char.isAlpha_toLower_eq_isAlpha c).trans halpha⟩
  · exact .inl (Char.toLower_eq_of_not_isUpper h)

theorem isBlank_toLower (c : Char) : Text.isBlank c.toLower = Text.isBlank c := by
  rcases toLower_eq_or_isAlpha c with h | ⟨h, h'⟩
  · rw [h]
  · rw [isBlank_of_start (by rw [h']; rfl), isBlank_of_start (by rw [h]; rfl)]

theorem isNameChar_toLower (c : Char) : isNameChar c.toLower = isNameChar c := by
  rcases toLower_eq_or_isAlpha c with h | ⟨h, h'⟩
  · rw [h]
  · rw [isNameChar_of_isAlpha h, isNameChar_of_isAlpha h']

theorem toLower_nameChar (c : Char) : (nameChar c).toLower = nameChar c.toLower := by
  unfold nameChar
  rw [isNameChar_toLower]
  split_ifs <;> rfl

theorem map_toLower_dropWhile (cs : List Char) :
    (cs.dropWhile Text.isBlank).map Char.toLower = (cs.map Char.toLower).dropWhile Text.isBlank := by
  have hblank : Text.isBlank ∘ Char.toLower = Text.isBlank := funext isBlank_toLower
  rw [List.dropWhile_map, hblank]

theorem map_toLower_trimChars (cs : List Char) :
    (Text.trimChars cs).map Char.toLower = Text.trimChars (cs.map Char.toLower) := by
  rw [Text.trimChars, Text.trimEnd, Text.trimStart, List.map_reverse, map_toLower_dropWhile, List.map_reverse,
    map_toLower_dropWhile]
  rfl

theorem trimChars_sublist (cs : List Char) : (Text.trimChars cs).Sublist cs := by
  have hend := (List.dropWhile_sublist Text.isBlank (l := (Text.trimStart cs).reverse)).reverse
  rw [List.reverse_reverse] at hend
  exact hend.trans (List.dropWhile_sublist _)

/-! ## Keys of names -/

section

variable {name m n : String}

theorem toList_sanitize (name : String) : (sanitize name).toList = (Text.trimChars name.toList).map nameChar :=
  String.toList_ofList

theorem isName_sanitize (name : String) : IsName (sanitize name) := fun _ => isNameChar_of_mem_sanitize

/-- A name as it is stored is put into lower case letter by letter. -/
theorem lowerChars_of_isName (h : IsName name) : Text.lowerChars name.toList = name.toList.map Char.toLower :=
  Text.lowerFrom_of_ascii [] fun c hc => toNat_lt_of_isNameChar (h c hc)

theorem isName_congr (h : m.toList.map Char.toLower = n.toList.map Char.toLower) : IsName m ↔ IsName n := by
  have hall : ∀ name : String, IsName name ↔ ∀ c ∈ name.toList.map Char.toLower, isNameChar c = true := by
    intro name
    simp only [IsName, List.forall_mem_map, isNameChar_toLower]
  rw [hall, hall, h]

/-- **Spellings in another case have one key.** -/
theorem lower_sanitize_congr (h : m.toList.map Char.toLower = n.toList.map Char.toLower) :
    Text.lower (sanitize m) = Text.lower (sanitize n) := by
  have hkey : ∀ name, Text.lowerChars (sanitize name).toList =
      (Text.trimChars (name.toList.map Char.toLower)).map nameChar := by
    intro name
    rw [lowerChars_of_isName (isName_sanitize name), toList_sanitize, List.map_map, ← map_toLower_trimChars,
      List.map_map]
    exact List.map_congr_left fun c _ => toLower_nameChar c
  rw [Text.lower, Text.lower, hkey, hkey, h]

/-- Only characters of names have the lower-case forms that they have in names. -/
theorem forall_isNameChar_of_lowerFrom {before cs : List Char}
    (h : Text.lowerFrom before cs = cs.map fun c => (nameChar c).toLower) : ∀ c ∈ cs, isNameChar c = true := by
  induction cs generalizing before with
  | nil => exact fun c hc => absurd hc List.not_mem_nil
  | cons c cs ih =>
    rw [Text.lowerFrom_cons, List.map_cons] at h
    by_cases hname : isNameChar c = true
    · rw [Text.lowerAt_of_ascii before (toNat_lt_of_isNameChar hname)] at h
      exact List.forall_mem_cons.mpr ⟨hname, ih (List.cons.inj h).2⟩
    · rw [nameChar, if_neg hname] at h
      obtain rfl := Text.eq_underscore_of_lowerAt h
      exact absurd rfl hname

/-- **A name as it is has the key of the stored name if and only if storing it changes nothing.** Replaced
characters have other lower-case forms than an underscore, and trimmed ones leave the name shorter. -/
theorem lower_eq_lower_sanitize_iff : Text.lower name = Text.lower (sanitize name) ↔ IsName name := by
  constructor
  · intro h
    have hchars : Text.lowerChars name.toList =
        (Text.trimChars name.toList).map fun c => (nameChar c).toLower := by
      have hstored := lowerChars_of_isName (isName_sanitize name)
      rw [toList_sanitize, List.map_map] at hstored
      rw [Text.lower, Text.lower] at h
      exact (String.ofList_injective h).trans (by rw [toList_sanitize]; exact hstored)
    have htrim : Text.trimChars name.toList = name.toList := by
      have hlength := Text.length_le_lowerFrom [] name.toList
      have hsub : (Text.trimChars name.toList).Sublist name.toList := trimChars_sublist _
      refine hsub.eq_of_length_le (hlength.trans_eq ?_)
      rw [show Text.lowerFrom [] name.toList = _ from hchars, List.length_map]
    rw [htrim] at hchars
    exact forall_isNameChar_of_lowerFrom hchars
  · intro h
    rw [sanitize_eq_self h]

end

/-! ## What answers -/

/-- A reference to a saved filter is evaluated as its body, one level below and with its key on the trail. -/
theorem visit_alias {ρ : Type} (e : Evaluator ρ) (record : ρ) {name : String} {rule : Rule}
    (hrule : e.registry.lookup name = some rule) (levels : ℕ) {c : Context} (hnew : Text.lower name ∉ c.trail) :
    e.visit record (levels + 1) (.alias name) c =
      ((e.visit record levels rule.root (c.descend.enter (Text.lower name))).1,
        (e.visit record levels rule.root (c.descend.enter (Text.lower name))).2.leave.ascend) := by
  have hdescend : Text.lower name ∉ c.descend.trail := hnew
  simp only [Evaluator.visit, Evaluator.visitParts, Evaluator.follow, hrule, if_neg hdescend, Option.getD_some]

section

variable {l l' : Library} {rule : Rule}

theorem get?_add (h : l.add rule = .ok l') (name : String) :
    l'.get? name = if Text.lower rule.name = Text.lower name then some rule else l.get? name := by
  obtain ⟨-, -, rfl, -⟩ := add_ok h
  exact Keyed.get?_insert _ _ _ _

/-- A rule whose key is free is found nowhere. -/
theorem Library.Kept.get?_ne (hl : l.Kept) (hfree : l.rules.get? (Text.lower rule.name) = none) (name : String) :
    l.get? name ≠ some rule := by
  intro h
  obtain ⟨hkey, -⟩ := hl.named _ (hl.ordered.mem_iff.mpr h)
  have hstored : l.rules.get? (Text.lower rule.name) = some rule := hkey ▸ h
  exact absurd (hfree.symm.trans hstored) (Option.some_ne_none rule).symm

end

/-- **References always find a rule under the name that it was added with, calls by name exactly if storing the
rule did not change the name.** The name may be spelled in another case. If storing changed it, then `get?` gives
what the library answered before, and `remove` takes that out and leaves the rule. -/
theorem answers_exact (cs : List Change) {n m : String} {body : Node} {l' : Library}
    (hadd : (Library.run {} cs).2.add (.named n body) = .ok l') (hm : Text.eqIgnoringAsciiCase m n = true) :
    l'.rules.lookup (sanitize m) = some (.named n body) ∧
      (∀ {ρ : Type} (e : Evaluator ρ) (record : ρ), e.registry = l'.rules → ∀ levels c,
        Text.lower (sanitize m) ∉ c.trail → e.visit record (levels + 1) (.aliasOf m) c =
          ((e.visit record levels body (c.descend.enter (Text.lower (sanitize m)))).1,
            (e.visit record levels body (c.descend.enter (Text.lower (sanitize m)))).2.leave.ascend)) ∧
      (l'.remove m).1 = l'.get? m ∧
      (l'.get? m = some (.named n body) ↔ IsName n) ∧
      (IsName n → (l'.remove m).2.rules.lookup (sanitize m) = none) ∧
      (¬ IsName n → l'.get? m = (Library.run {} cs).2.get? m ∧
        (l'.remove m).2.rules.lookup (sanitize m) = some (.named n body)) := by
  have hletters : m.toList.map Char.toLower = n.toList.map Char.toLower := by
    simpa [Text.eqIgnoringAsciiCase] using hm
  have hkey : Text.lower (Rule.named n body).name = Text.lower (sanitize m) := (lower_sanitize_congr hletters).symm
  have hget := get?_add hadd
  rw [hkey] at hget
  obtain ⟨hfree, -⟩ := add_ok hadd
  have hstored : l'.rules.lookup (sanitize m) = some (.named n body) := (hget (sanitize m)).trans (if_pos rfl)
  -- the name as it is has the key of the rule if and only if it is stored as it is
  have hsame : Text.lower (sanitize m) = Text.lower m ↔ IsName n :=
    eq_comm.trans (lower_eq_lower_sanitize_iff.trans (isName_congr hletters))
  have herase : (l'.remove m).2.rules.lookup (sanitize m) =
      if Text.lower m = Text.lower (sanitize m) then none else l'.rules.lookup (sanitize m) := Keyed.get?_erase _ _ _
  refine ⟨hstored, fun e record hregistry levels c hnew => ?_, rfl, ?_, fun h => ?_, fun h => ⟨?_, ?_⟩⟩
  · exact visit_alias e record (hregistry ▸ hstored) levels hnew
  · rw [hget m]
    split_ifs with heq
    · exact iff_of_true rfl (hsame.mp heq)
    · exact iff_of_false ((run_kept kept_empty cs).get?_ne hfree m) (mt hsame.mpr heq)
  · rw [herase, if_pos (hsame.mpr h).symm]
  · rw [hget m, if_neg (mt hsame.mp h)]
  · rw [herase, if_neg fun heq => h (hsame.mp heq.symm), hstored]

/-- A name that is stored as it is, in another case. -/
theorem answers_exact_slow :
    ∃ l', Library.add {} (.named "Slow.Query" (.search "slow")) = .ok l' ∧
      Text.eqIgnoringAsciiCase "SLOW.query" "Slow.Query" = true ∧
      l'.get? "SLOW.query" = some (.named "Slow.Query" (.search "slow")) := by
  have hadd : Library.add {} (.named "Slow.Query" (.search "slow")) =
      .ok ⟨⟨[("slow.query", .named "Slow.Query" (.search "slow"))]⟩⟩ := by cbv
  have hcase : Text.eqIgnoringAsciiCase "SLOW.query" "Slow.Query" = true := by cbv
  have hname : IsName "Slow.Query" := lower_eq_lower_sanitize_iff.mp (by cbv)
  obtain ⟨-, -, -, hiff, -⟩ := answers_exact [] hadd hcase
  exact ⟨_, hadd, hcase, hiff.mpr hname⟩

/-- A rule that is added as `my filter` is found by a reference with this name, and by no call with it. A rule that
is added as the Kelvin sign is stored as an underscore, and a call with that sign gives the rule `k`. -/
theorem answers_another :
    (∃ l', Library.add {} (.named "my filter" (.search "x")) = .ok l' ∧
      l'.rules.lookup (sanitize "my filter") = some (.named "my filter" (.search "x")) ∧
      l'.get? "my filter" = none ∧ (l'.remove "my filter").1 = none) ∧
    ∃ l l', Library.add {} (.named "k" (.search "boot")) = .ok l ∧ l.add (.named "\u212a" (.search "x")) = .ok l' ∧
      l'.rules.lookup (sanitize "\u212a") = some (.named "\u212a" (.search "x")) ∧
      l'.get? "\u212a" = some (.named "k" (.search "boot")) ∧
      (l'.remove "\u212a").1 = some (.named "k" (.search "boot")) := by
  refine ⟨⟨⟨⟨[("my_filter", .named "my filter" (.search "x"))]⟩⟩, ?_, ?_, ?_, ?_⟩,
    ⟨⟨[("k", .named "k" (.search "boot"))]⟩⟩,
    ⟨⟨[("_", .named "\u212a" (.search "x")), ("k", .named "k" (.search "boot"))]⟩⟩, ?_, ?_, ?_, ?_, ?_⟩
  all_goals cbv

end LogQuery.Filter
