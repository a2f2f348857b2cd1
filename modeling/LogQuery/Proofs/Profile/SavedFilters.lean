import LogQuery.Profile
import LogQuery.Proofs.Filter.Library

/-!
# Proofs.Profile.SavedFilters — the library that a profile declares

The saved filters are read and added one after the other. A filter sees those above it only: the reader knows no
other name for a side of a comparison, and a reference is refused when the rule is stored.

* `evaluate_not_missing`: where all references are stored, evaluation misses no saved filter.
* `Refused`: why a saved filter does not come in.
* `Loaded`: what the library holds; `Loaded.concat` is the step, `loaded_of_ok` the run.
* `libraryOver_exact`: the library and its rules, or the error of the first filter that was refused.
-/

namespace LogQuery

/-- The error of a run is that of the first step that fails. -/
theorem foldlM_eq_error_iff {ε α β : Type} {f : β → α → Except ε β} {start : β} {xs : List α} {err : ε} :
    xs.foldlM f start = .error err ↔
      ∃ before x after reached, xs = before ++ x :: after ∧ before.foldlM f start = .ok reached ∧
        f reached x = .error err := by
  constructor
  · intro h
    induction xs generalizing start with
    | nil => exact nomatch h
    | cons y ys ih =>
      rw [List.foldlM_cons] at h
      cases hy : f start y with
      | error err' =>
        rw [hy] at h
        obtain rfl : err' = err := Except.error.inj h
        exact ⟨[], y, ys, start, rfl, rfl, hy⟩
      | ok next =>
        rw [hy] at h
        obtain ⟨before, x, after, reached, rfl, hreached, hx⟩ := ih h
        refine ⟨y :: before, x, after, reached, rfl, ?_, hx⟩
        rw [List.foldlM_cons, hy]
        exact hreached
  · rintro ⟨before, x, after, reached, rfl, hreached, hx⟩
    rw [List.foldlM_append, hreached]
    show (x :: after).foldlM f reached = _
    rw [List.foldlM_cons, hx]
    rfl

namespace Filter

/-! ## Evaluation finds every name -/

section

variable {registry : Registry} {n : Node}

/-- Where all references are stored, only stored names are reached. -/
theorem exists_lookup_of_reached (hall : Resolved registry) {trail trail' : List String} {name : String}
    (hn : ∀ name, .rule name ∈ n.references → ∃ rule, registry.lookup name = some rule)
    (h : Reached registry trail n trail' (.rule name)) : ∃ rule, registry.lookup name = some rule := by
  generalize href : Reference.rule name = ref at h
  induction h with
  | here h => exact hn name (href ▸ h)
  | through _ _ hrule _ ih =>
    exact ih (fun name' hname' => hall _ _ ⟨_, name', hrule, hname', rfl⟩) href

theorem evaluate_not_missing {ρ : Type} (e : Evaluator ρ) (record : ρ) (hall : Resolved e.registry)
    (hn : ∀ name, .rule name ∈ n.references → ∃ rule, e.registry.lookup name = some rule) (name : String) :
    .aliasNotFound name ∉ (e.evaluate n record).2.errors := by
  intro herr
  cases evaluate_explained e record herr with
  | missing hreached hnone =>
    obtain ⟨rule, hrule⟩ := exists_lookup_of_reached hall hn hreached
    exact absurd hrule (by rw [hnone]; exact (Option.some_ne_none rule).symm)

end

end Filter

open LogQuery.Filter

/-- The key of a saved filter in a library: its name as it is stored, in lower case. -/
def SavedFilter.key (saved : SavedFilter) : String := Text.lower (sanitize saved.name)

theorem lower_named_name (saved : SavedFilter) (root : Node) :
    Text.lower (Rule.named saved.name root).name = saved.key := rfl

namespace Profile

variable (p : Profile) (catalog : Catalog)

/-! ## One saved filter -/

/-- Why a saved filter does not come into a library. -/
inductive Refused (l : Library) (saved : SavedFilter) : ProfileError → Prop where
  /-- Its text is no filter. -/
  | unread {err : ReadError} (h : (p.readerOver catalog l).read saved.filter = .error err) :
      Refused l saved (.invalidFilter saved.name err)
  /-- Its rule cannot be added. -/
  | unadded {root : Node} {err : LibraryError} (hread : (p.readerOver catalog l).read saved.filter = .ok root)
      (h : l.add (.named saved.name root) = .error err) : Refused l saved (.library err)

section

variable {p catalog} {l l' : Library} {saved : SavedFilter}

theorem mapError_eq_ok {ε ε' α : Type} {f : ε → ε'} {x : Except ε α} {a : α} : x.mapError f = .ok a ↔ x = .ok a := by
  cases x <;> simp [Except.mapError]

theorem addSaved_eq_ok (h : p.addSaved catalog l saved = .ok l') :
    ∃ root, (p.readerOver catalog l).read saved.filter = .ok root ∧ l.add (.named saved.name root) = .ok l' := by
  rw [addSaved] at h
  obtain ⟨root, hread, hadd⟩ := bind_eq_ok.mp h
  exact ⟨root, mapError_eq_ok.mp hread, mapError_eq_ok.mp hadd⟩

theorem addSaved_eq_error_iff {err : ProfileError} :
    p.addSaved catalog l saved = .error err ↔ Refused p catalog l saved err := by
  simp only [addSaved, bind, Except.bind]
  cases hread : (p.readerOver catalog l).read saved.filter with
  | error readErr =>
    constructor
    · intro h
      obtain rfl := Except.error.inj h
      exact .unread hread
    · rintro (h | ⟨h, -⟩)
      · obtain rfl := Except.error.inj (hread.symm.trans h)
        rfl
      · exact nomatch hread.symm.trans h
  | ok root =>
    constructor
    · intro h
      cases hadd : l.add (.named saved.name root) with
      | error addErr =>
        obtain rfl : ProfileError.library addErr = err := by simpa [hadd, Except.mapError] using h
        exact .unadded hread hadd
      | ok added => simp [hadd, Except.mapError] at h
    · rintro (h | ⟨h, hadd⟩)
      · exact nomatch hread.symm.trans h
      · obtain rfl := Except.ok.inj (hread.symm.trans h)
        simp [hadd, Except.mapError]

end

/-! ## One after the other -/

section

variable {p catalog} {before : List SavedFilter} {saved : SavedFilter} {l : Library}

theorem libraryOver_concat_eq_ok (h : p.libraryOver catalog (before ++ [saved]) = .ok l) :
    ∃ earlier root, p.libraryOver catalog before = .ok earlier ∧
      (p.readerOver catalog earlier).read saved.filter = .ok root ∧ earlier.add (.named saved.name root) = .ok l := by
  simp only [libraryOver, List.foldlM_append, List.foldlM_cons, List.foldlM_nil, bind_pure] at h ⊢
  cases hbefore : before.foldlM (p.addSaved catalog) {} with
  | error err =>
    rw [hbefore] at h
    exact nomatch h
  | ok earlier =>
    rw [hbefore] at h
    obtain ⟨root, hread, hadd⟩ := addSaved_eq_ok h
    exact ⟨earlier, root, rfl, hread, hadd⟩

/-- No rule comes back to itself, and every reference is stored. -/
theorem sound_of_ok {filters : List SavedFilter} (h : p.libraryOver catalog filters = .ok l) :
    l.Kept ∧ Resolved l.rules := by
  induction filters using List.reverseRecOn generalizing l with
  | nil =>
    obtain rfl := Except.ok.inj h
    exact ⟨kept_empty, resolved_empty⟩
  | append_singleton before saved ih =>
    obtain ⟨earlier, root, hearlier, -, hadd⟩ := libraryOver_concat_eq_ok h
    obtain ⟨hkept, hall⟩ := ih hearlier
    obtain ⟨-, hstored⟩ := add_ok hadd
    exact ⟨hstored.kept hkept, hstored.resolved hall⟩

end

/-- What the library of saved filters holds. -/
structure Loaded (filters : List SavedFilter) (l : Library) : Prop where
  /-- One rule for each saved filter, under its key. -/
  keys : l.rules.keys.Perm (filters.map SavedFilter.key)
  distinct : (filters.map SavedFilter.key).Nodup
  named : ∀ saved ∈ filters, sanitize saved.name ≠ ""
  /-- The rule of a filter is what was read beside the filters before it, and refers to these only. -/
  stored : ∀ {i : ℕ} {saved : SavedFilter}, filters[i]? = some saved → ∃ earlier root,
    p.libraryOver catalog (filters.take i) = .ok earlier ∧
    (p.readerOver catalog earlier).read saved.filter = .ok root ∧
    l.rules.get? saved.key = some (.named saved.name root) ∧
    ∀ name, .rule name ∈ root.references → ∃ other ∈ filters.take i, Text.lower name = other.key

section

variable {p catalog} {filters : List SavedFilter} {l l' : Library}

theorem loaded_nil : Loaded p catalog [] {} where
  keys := .refl _
  distinct := List.nodup_nil
  named _ h := absurd h List.not_mem_nil
  stored h := nomatch h

/-- A rule that is added after others refers to them only. -/
theorem references_of_add {rule : Rule} (hadd : l.add rule = .ok l') {name : String}
    (hname : .rule name ∈ rule.root.references) : ∃ stored, l.rules.get? (Text.lower name) = some stored := by
  obtain ⟨-, -, rfl, hclean⟩ := add_ok hadd
  have hrule : (l.rules.insert (Text.lower rule.name) rule).get? (Text.lower rule.name) = some rule := by
    rw [Keyed.get?_insert, if_pos rfl]
  have hrefers : Refers _ (Text.lower rule.name) (Text.lower name) := ⟨rule, name, hrule, hname, rfl⟩
  obtain ⟨stored, hstored⟩ := exists_get?_of_clean hclean List.mem_cons_self hrefers
  have hne : Text.lower rule.name ≠ Text.lower name := by
    intro heq
    exact not_transGen_of_clean hclean List.mem_cons_self (.single (heq ▸ hrefers))
  rw [Keyed.get?_insert, if_neg hne] at hstored
  exact ⟨stored, hstored⟩

/-- What is stored is the rule of a saved filter. -/
theorem Loaded.exists_of_get? (hl : Loaded p catalog filters l) (hkept : l.Kept) {key : String} {rule : Rule}
    (h : l.rules.get? key = some rule) : ∃ saved ∈ filters, key = saved.key := by
  have hkey : key ∈ filters.map SavedFilter.key := hl.keys.mem_iff.mp (hkept.ordered.mem_keys_iff.mpr ⟨rule, h⟩)
  obtain ⟨saved, hsaved, heq⟩ := List.mem_map.mp hkey
  exact ⟨saved, hsaved, heq.symm⟩

theorem Loaded.key_notMem {saved : SavedFilter} (hl : Loaded p catalog filters l) (hkept : l.Kept)
    (hfresh : l.rules.get? saved.key = none) : saved.key ∉ l.rules.keys ∧ saved.key ∉ filters.map SavedFilter.key := by
  have hfree : saved.key ∉ l.rules.keys := by
    rw [hkept.ordered.mem_keys_iff, hfresh]
    rintro ⟨stored, hstored⟩
    exact nomatch hstored
  exact ⟨hfree, fun h => hfree (hl.keys.mem_iff.mpr h)⟩

/-- The step: one more saved filter. -/
theorem Loaded.concat {saved : SavedFilter} {root : Node} (hl : Loaded p catalog filters l) (hkept : l.Kept)
    (hlibrary : p.libraryOver catalog filters = .ok l) (hread : (p.readerOver catalog l).read saved.filter = .ok root)
    (hadd : l.add (.named saved.name root) = .ok l') : Loaded p catalog (filters ++ [saved]) l' := by
  obtain ⟨hfresh, hname, hinsert, -⟩ := add_ok hadd
  rw [lower_named_name] at hfresh hinsert
  obtain ⟨hfree, hnew⟩ := hl.key_notMem hkept hfresh
  subst hinsert
  refine ⟨?_, ?_, ?_, ?_⟩
  · rw [Keyed.keys_insert, List.map_append]
    exact (perm_insertOrdered hfree).trans ((hl.keys.cons saved.key).trans (List.perm_append_singleton _ _).symm)
  · rw [List.map_append]
    exact hl.distinct.append (List.nodup_singleton _) (List.disjoint_singleton.mpr hnew)
  · rw [List.forall_mem_append]
    exact ⟨hl.named, List.forall_mem_singleton.mpr hname⟩
  · intro i other hi
    rcases Nat.lt_trichotomy i filters.length with hlt | rfl | hgt
    · rw [List.getElem?_append_left hlt] at hi
      obtain ⟨earlier, body, hearlier, hbody, hstored, hrefs⟩ := hl.stored hi
      have hne : saved.key ≠ other.key := by
        intro heq
        rw [heq] at hnew
        exact hnew (List.mem_map_of_mem (List.mem_of_getElem? hi))
      rw [List.take_append_of_le_length hlt.le]
      refine ⟨earlier, body, hearlier, hbody, ?_, hrefs⟩
      rw [Keyed.get?_insert, if_neg hne, hstored]
    · obtain rfl : saved = other := by simpa using hi
      rw [List.take_left]
      refine ⟨l, root, hlibrary, hread, by rw [Keyed.get?_insert, if_pos rfl], fun name href => ?_⟩
      obtain ⟨stored, hstored⟩ := references_of_add hadd href
      exact hl.exists_of_get? hkept hstored
    · rw [List.getElem?_eq_none (by simpa using hgt)] at hi
      exact nomatch hi

theorem loaded_of_ok (h : p.libraryOver catalog filters = .ok l) : Loaded p catalog filters l := by
  induction filters using List.reverseRecOn generalizing l with
  | nil =>
    obtain rfl := Except.ok.inj h
    exact loaded_nil
  | append_singleton before saved ih =>
    obtain ⟨earlier, root, hearlier, hread, hadd⟩ := libraryOver_concat_eq_ok h
    exact (ih hearlier).concat (sound_of_ok hearlier).1 hearlier hread hadd

end

/-- **A library that loads has every filter that it names.** It holds one rule for each saved filter, under names
that are distinct in any case and not empty; a rule refers only to filters above its own, and evaluating a rule on
a record misses no saved filter and meets no cycle. Otherwise the error is that of the first filter that cannot be
read beside those above it, or cannot be added to them. -/
theorem libraryOver_exact (filters : List SavedFilter) :
    (∀ l, p.libraryOver catalog filters = .ok l → Loaded p catalog filters l ∧
      ∀ {ρ : Type} (e : Evaluator ρ) (record : ρ), e.registry = l.rules → ∀ rule ∈ l.toList,
        (∀ name, .aliasNotFound name ∉ (e.evaluate rule.root record).2.errors) ∧
          ∀ trace, .cyclicAlias trace ∉ (e.evaluate rule.root record).2.errors) ∧
    ∀ err, p.libraryOver catalog filters = .error err ↔
      ∃ before saved after l, filters = before ++ saved :: after ∧ p.libraryOver catalog before = .ok l ∧
        Refused p catalog l saved err := by
  refine ⟨fun l h => ⟨loaded_of_ok h, fun e record hregistry rule hrule => ?_⟩, fun err => ?_⟩
  · obtain ⟨hkept, hall⟩ := sound_of_ok h
    obtain ⟨entry, hentry, rfl⟩ := List.mem_map.mp hrule
    have hstored : e.registry.get? entry.1 = some entry.2 := hregistry ▸ hkept.ordered.mem_iff.mp hentry
    rw [← hregistry] at hall
    have hrefs : ∀ name, .rule name ∈ entry.2.root.references → ∃ rule, e.registry.lookup name = some rule :=
      fun name hname => hall _ _ ⟨entry.2, name, hstored, hname, rfl⟩
    exact ⟨evaluate_not_missing e record hall hrefs,
      evaluate_not_cyclic e record (hregistry ▸ hkept.acyclic) entry.2.root⟩
  · rw [libraryOver, foldlM_eq_error_iff]
    simp only [addSaved_eq_error_iff]
    rfl

/-! ## Three saved filters -/

/-- The filter of a level. -/
def errorsFilter : SavedFilter := ⟨"Errors", "level == 'ERROR'"⟩

/-- It refers to the filter of the level, in another case. -/
def flaggedFilter : SavedFilter := ⟨"flagged", "#errors AND has_payload"⟩

/-- It lacks a value. -/
def brokenFilter : SavedFilter := ⟨"broken", "level =="⟩

def errorsRoot : Node :=
  .expression .and false (.compare (.field ⟨"level", .textIgnoreCase⟩) .equal (.literal (.text "ERROR"))) []

def flaggedRoot : Node :=
  .expression .and false (.alias "errors")
    [.compare (.field ⟨"has_payload", .boolean⟩) .equal (.literal (.boolean true))]

def errorsLibrary : Library := ⟨⟨[("errors", .named "Errors" errorsRoot)]⟩⟩

def flaggedLibrary : Library := ⟨⟨[("errors", .named "Errors" errorsRoot), ("flagged", .named "flagged" flaggedRoot)]⟩⟩

/-- The filters of the level and of the flagged load. With the broken one between them its error is the error of
all three. -/
theorem libraryOver_exact_flagged :
    libraryOver {} (Log.catalog ["level"]) [errorsFilter, flaggedFilter] = .ok flaggedLibrary ∧
      Loaded {} (Log.catalog ["level"]) [errorsFilter, flaggedFilter] flaggedLibrary ∧
      libraryOver {} (Log.catalog ["level"]) [errorsFilter, brokenFilter, flaggedFilter] =
        .error (.invalidFilter "broken" (.unexpectedEnd .value)) := by
  have herrors : addSaved {} (Log.catalog ["level"]) {} errorsFilter = .ok errorsLibrary := by cbv
  have hflagged : addSaved {} (Log.catalog ["level"]) errorsLibrary flaggedFilter = .ok flaggedLibrary := by cbv
  have hbroken : addSaved {} (Log.catalog ["level"]) errorsLibrary brokenFilter =
      .error (.invalidFilter "broken" (.unexpectedEnd .value)) := by cbv
  have hfirst : libraryOver {} (Log.catalog ["level"]) [errorsFilter] = .ok errorsLibrary := by
    simp only [libraryOver, List.foldlM_cons, List.foldlM_nil, herrors, bind, Except.bind, pure, Except.pure]
  have hloads : libraryOver {} (Log.catalog ["level"]) [errorsFilter, flaggedFilter] = .ok flaggedLibrary := by
    simp only [libraryOver, List.foldlM_cons, List.foldlM_nil, herrors, hflagged, bind, Except.bind, pure, Except.pure]
  refine ⟨hloads, ((libraryOver_exact {} (Log.catalog ["level"]) _).1 _ hloads).1, ?_⟩
  refine ((libraryOver_exact {} (Log.catalog ["level"]) _).2 _).mpr ?_
  exact ⟨[errorsFilter], brokenFilter, [flaggedFilter], errorsLibrary, rfl, hfirst, addSaved_eq_error_iff.mp hbroken⟩

end Profile

end LogQuery
