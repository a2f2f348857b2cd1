import LogQuery.Proofs.Color.Winner
import LogQuery.Proofs.Search.Report

/-!
# Proofs.Search.Colors — the colors of the entries found

* `Findings.Colored`, `withColors_colored`: the entries with a color are those found on which a rule wins.
* `ruleOf_eq_none`: a row that was not found has no color rule.
* `colors_exact`: which rule colors which entry.
-/

namespace LogQuery.Search

open LogQuery.Filter

/-- A key that stands in a list once is looked up with its value. -/
theorem lookup_eq_some_iff_mem {l : List (ℕ × ℕ)} (h : (l.map Prod.fst).Nodup) {i k : ℕ} :
    l.lookup i = some k ↔ (i, k) ∈ l := by
  induction l with
  | nil => simp
  | cons p l ih =>
    obtain ⟨j, m⟩ := p
    obtain ⟨hj, hrest⟩ := List.nodup_cons.mp h
    by_cases hij : i = j
    · subst hij
      have hlater : (i, k) ∉ l := fun hmem => hj (List.mem_map.mpr ⟨(i, k), hmem, rfl⟩)
      simp [List.lookup, hlater, eq_comm]
    · have hne : (i == j) = false := by simpa using hij
      simp [List.lookup, hne, hij, ih hrest]

namespace Findings

/-- The colors are those of the entries found on which a rule wins, each once and in order. -/
structure Colored (e : Evaluator Log.Entry) (rules : List ColorRule) (entries : List Log.Entry) (f : Findings) :
    Prop where
  increasing : (f.colors.map Prod.fst).Pairwise (· < ·)
  mem_colors : ∀ i k, (i, k) ∈ f.colors ↔
    i ∈ f.found ∧ ∃ entry, entries[i]? = some entry ∧ ColorRule.pick e rules entry = some k
  colorOf_iff : ∀ i k, f.colorOf i = some k ↔ (i, k) ∈ f.colors

section

variable (e : Evaluator Log.Entry) (rules : List ColorRule) (entries : List Log.Entry) {f : Findings}

theorem mem_withColors {i k : ℕ} : (i, k) ∈ (f.withColors e rules entries).colors ↔
    i ∈ f.found ∧ ∃ entry, entries[i]? = some entry ∧ ColorRule.pick e rules entry = some k := by
  refine List.mem_filterMap.trans ⟨?_, ?_⟩
  · rintro ⟨index, hindex, hrule⟩
    obtain ⟨entry, hentry, hpick⟩ := Option.bind_eq_some_iff.mp hrule
    obtain ⟨rule, hrule, heq⟩ := Option.bind_eq_some_iff.mp hpick
    cases heq
    exact ⟨hindex, entry, hentry, hrule⟩
  · rintro ⟨hi, entry, hentry, hpick⟩
    exact ⟨i, hi, by simp [hentry, hpick]⟩

theorem withColors_increasing (h : f.found.Pairwise (· < ·)) :
    ((f.withColors e rules entries).colors.map Prod.fst).Pairwise (· < ·) := by
  rw [List.pairwise_map]
  refine h.filterMap _ fun i j hlt a ha b hb => ?_
  have hindex : ∀ {m : ℕ} {c : ℕ × ℕ}, (do
      let entry ← entries[m]?
      let rule ← ColorRule.pick e rules entry
      pure (m, rule)) = some c → c.1 = m := by
    intro m c hc
    obtain ⟨entry, -, hc⟩ := Option.bind_eq_some_iff.mp hc
    obtain ⟨rule, -, hc⟩ := Option.bind_eq_some_iff.mp hc
    cases hc
    rfl
  rw [hindex ha, hindex hb]
  exact hlt

theorem withColors_colored (h : f.found.Pairwise (· < ·)) :
    (f.withColors e rules entries).Colored e rules entries where
  increasing := withColors_increasing e rules entries h
  mem_colors _ _ := mem_withColors e rules entries
  colorOf_iff _ _ := by
    refine lookup_eq_some_iff_mem ?_
    exact (withColors_increasing e rules entries h).imp ne_of_lt

end

end Findings

/-- A row is marked as found if it is one of the entries found, and only they have colors. -/
theorem ruleOf_eq_none {e : Evaluator Log.Entry} {rules : List ColorRule} {r : Report}
    (hcolored : r.findings.Colored e rules r.entries) (hfound : ∀ m ∈ r.findings.found, m < r.entries.length)
    {p : Row × Log.Entry} (hp : p ∈ r.shown) (hrow : p.1.found = false) : r.ruleOf p.1.index = none := by
  obtain ⟨row, hmem, hp⟩ := List.mem_filterMap.mp hp
  obtain ⟨entry, -, rfl⟩ := Option.map_eq_some_iff.mp hp
  rw [rows_eq hfound] at hmem
  have hindex : row.index ∉ r.findings.found := by
    intro h
    have hmarked : row.found = true := (rowsFrom_found hmem).mpr h
    exact Bool.noConfusion (hmarked.symm.trans hrow)
  have hcolor : r.findings.colorOf row.index = none := by
    cases hcolor : r.findings.colorOf row.index with
    | none => rfl
    | some k =>
      have hpair := (hcolored.colorOf_iff row.index k).mp hcolor
      exact absurd ((hcolored.mem_colors row.index k).mp hpair).1 hindex
  rw [Report.ruleOf, hcolor]
  rfl

/-- **The color rule of an entry.** The rule that is picked on an entry is the one that wins: it is enabled, its
filter is true of the entry, and no other such rule has a smaller pair of priority and index. Nothing is picked
exactly when no enabled rule has a filter that is true of the entry. After a search, the entries with a color are
exactly those found on which a rule wins, each with that rule, and no other row of a report has a rule. -/
theorem colors_exact (e colorist : Evaluator Log.Entry) (node : Node) (entries : List Log.Entry)
    (rules : List ColorRule) :
    (∀ entry i, ColorRule.pick colorist rules entry = some i ↔
      ∃ r, rules[i]? = some r ∧ r.enabled = true ∧ (colorist.evaluate r.rule.root entry).1 = true ∧
        ∀ j r', rules[j]? = some r' → r'.enabled = true → (colorist.evaluate r'.rule.root entry).1 = true →
          ¬ toLex (r'.priority, j) < toLex (r.priority, i)) ∧
    (∀ entry, ColorRule.pick colorist rules entry = none ↔
      ∀ r ∈ rules, r.enabled = true → (colorist.evaluate r.rule.root entry).1 = false) ∧
    let f := (Findings.of e node entries).withColors colorist rules entries
    (f.colors.map Prod.fst).Pairwise (· < ·) ∧
    (∀ i k, (i, k) ∈ f.colors ↔ ∃ entry, entries[i]? = some entry ∧ (e.evaluate node entry).1 = true ∧
      ColorRule.pick colorist rules entry = some k) ∧
    (∀ i k, f.colorOf i = some k ↔ (i, k) ∈ f.colors) ∧
    ∀ file context, ∀ p ∈ (Report.mk file entries f context rules).shown, p.1.found = false →
      (Report.mk file entries f context rules).ruleOf p.1.index = none := by
  refine ⟨fun entry i => ?_, fun entry => ?_, ?_⟩
  · rw [ColorRule.pick_eq_some_iff]
    simp only [ColorRule.Wins, ColorRule.Applies, and_assoc, and_imp]
  · rw [ColorRule.pick_eq_none_iff]
    simp only [ColorRule.Applies, not_and, Bool.not_eq_true]
  intro f
  have hcolored : f.Colored colorist rules entries :=
    Findings.withColors_colored colorist rules entries Findings.of_found_increasing
  refine ⟨hcolored.increasing, fun i k => ?_, hcolored.colorOf_iff, fun file context p hp hrow => ?_⟩
  · have hfound : i ∈ f.found ↔ ∃ entry, entries[i]? = some entry ∧ (e.evaluate node entry).1 = true :=
      Findings.mem_of_found
    rw [hcolored.mem_colors, hfound]
    constructor
    · rintro ⟨⟨entry, hentry, htrue⟩, entry', hentry', hpick⟩
      obtain rfl : entry = entry' := Option.some.inj (hentry.symm.trans hentry')
      exact ⟨entry, hentry, htrue, hpick⟩
    · rintro ⟨entry, hentry, htrue, hpick⟩
      exact ⟨⟨entry, hentry, htrue⟩, entry, hentry, hpick⟩
  · refine ruleOf_eq_none (r := Report.mk file entries f context rules) hcolored (fun m hm => ?_) hp hrow
    obtain ⟨entry, hentry, -⟩ := Findings.mem_of_found.mp hm
    exact (List.getElem?_eq_some_iff.mp hentry).1

/-- The entries of a level. -/
def ofLevel (level : String) : Node := .compare (.field ⟨"level", .text⟩) .equal (.literal (.text level))

/-- A rule for a level, with a priority. -/
def levelRule (level : String) (priority : ℤ) (enabled : Bool) : ColorRule :=
  { rule := .named level (ofLevel level), priority, enabled }

/-- The least priority belongs to a disabled rule, the next one to a rule for another level and to two rules. -/
def beatRules : List ColorRule :=
  [levelRule "ERROR" (-5) false, levelRule "INFO" (-1) true, levelRule "ERROR" 2 true, levelRule "ERROR" (-1) true,
    levelRule "ERROR" (-1) true]

/-- The fourth rule wins on the entries found, and the rows around them have no rule. -/
theorem colors_exact_beats :
    let e : Evaluator Log.Entry := ⟨Log.resolver [], .empty, 8⟩
    let f := (Findings.of e (ofLevel "ERROR") beats).withColors e beatRules beats
    f.colors = [(0, 3), (4, 3)] ∧
    ColorRule.pick e beatRules (beat 2 "INFO") = some 1 ∧
    ∀ p ∈ (Report.mk "core.log" beats f 1 beatRules).shown, p.1.found = false →
      (Report.mk "core.log" beats f 1 beatRules).ruleOf p.1.index = none := by
  intro e f
  have hcolors : f.colors = [(0, 3), (4, 3)] := by cbv
  have hpick : ColorRule.pick e beatRules (beat 2 "INFO") = some 1 := by cbv
  obtain ⟨-, -, -, -, -, hrows⟩ := colors_exact e e (ofLevel "ERROR") beats beatRules
  exact ⟨hcolors, hpick, hrows "core.log" 1⟩

end LogQuery.Search
