import LogQuery.Proofs.Filter.Library

/-!
# Proofs.Filter.DependencyGraph — the walk finds exactly what is reachable

The walk over the dependencies follows ways of distinct names only. It still finds all that the graph of
references leads to, since a simple path leads there too.

* `exists_reached_of_reachable`: whatever is reachable is reached along a simple path.
* `closes_cycle_iff`: the walk closes a cycle if and only if one is reachable.
* `dependencies_exact`: aliases, fields, missing names and cycles are those of the graph.
-/

namespace LogQuery.Filter

open Relation

/-! ## The graph -/

/-- The name, in lower case, is one that the filter or a rule below it refers to. -/
def Reachable (registry : Registry) (n : Node) (key : String) : Prop :=
  ∃ name, .rule name ∈ n.references ∧ ReflTransGen (Refers registry) (Text.lower name) key

/-- The reference stands in the filter, or in a rule that is reachable from it. -/
def Occurs (registry : Registry) (n : Node) (ref : Reference) : Prop :=
  ref ∈ n.references ∨
    ∃ key rule, Reachable registry n key ∧ registry.get? key = some rule ∧ ref ∈ rule.root.references

section

variable {registry : Registry} {n : Node} {trail trail' : List String} {ref : Reference} {name key : String}

theorem Occurs.reachable (h : Occurs registry n (.rule name)) : Reachable registry n (Text.lower name) := by
  rcases h with hname | ⟨key, rule, ⟨first, hfirst, hpath⟩, hrule, hname⟩
  · exact ⟨name, hname, .refl⟩
  · exact ⟨first, hfirst, hpath.tail ⟨rule, name, hrule, hname, rfl⟩⟩

/-- What occurs below a rule occurs below a filter that refers to it. -/
theorem Occurs.through {rule : Rule} (hname : .rule name ∈ n.references) (hrule : registry.lookup name = some rule)
    (h : Occurs registry rule.root ref) : Occurs registry n ref := by
  right
  rcases h with href | ⟨key, below, ⟨first, hfirst, hpath⟩, hbelow, href⟩
  · exact ⟨_, rule, ⟨name, hname, .refl⟩, hrule, href⟩
  · have hstep : Refers registry (Text.lower name) (Text.lower first) := ⟨rule, first, hrule, hfirst, rfl⟩
    exact ⟨key, below, ⟨name, hname, hpath.head hstep⟩, hbelow, href⟩

theorem occurs_of_reached (h : Reached registry trail n trail' ref) : Occurs registry n ref := by
  induction h with
  | here href => exact .inl href
  | through hname _ hrule _ ih => exact .through hname hrule ih

/-- A way to a rule goes on below it. -/
theorem Reached.trans {rule : Rule} {trail₁ : List String} (h : Reached registry trail n trail₁ (.rule name))
    (hnew : Text.lower name ∉ trail₁) (hrule : registry.lookup name = some rule)
    (hbelow : Reached registry (trail₁ ++ [Text.lower name]) rule.root trail' ref) :
    Reached registry trail n trail' ref := by
  generalize hlast : Reference.rule name = last at h
  induction h with
  | here hname => exact .through (hlast ▸ hname) hnew hrule hbelow
  | through hname hfirst hrule' _ ih => exact .through hname hfirst hrule' (ih hnew hbelow hlast)

/-- Every name on the way was reached before it was followed. -/
theorem exists_reached_of_mem_trail (h : Reached registry trail n trail' ref) (hkey : key ∈ trail')
    (hnew : key ∉ trail) :
    ∃ trail₁ name, Reached registry trail n trail₁ (.rule name) ∧ Text.lower name = key ∧ key ∉ trail₁ := by
  induction h with
  | here _ => exact absurd hkey hnew
  | @through trail trail' n first rule ref hname hfirst hrule _ ih =>
    by_cases heq : Text.lower first = key
    · exact ⟨trail, first, .here hname, heq, hnew⟩
    · have hnew' : key ∉ trail ++ [Text.lower first] := by
        simp only [List.mem_append, List.mem_singleton, not_or]
        exact ⟨hnew, fun h => heq h.symm⟩
      obtain ⟨trail₁, name, h, hlower, hnot⟩ := ih hkey hnew'
      exact ⟨trail₁, name, .through hname hfirst hrule h, hlower, hnot⟩

/-- **A simple path leads wherever a path leads.** -/
theorem exists_reached_of_reachable (h : Reachable registry n key) :
    ∃ trail name, Reached registry [] n trail (.rule name) ∧ Text.lower name = key ∧ key ∉ trail := by
  obtain ⟨first, hfirst, hpath⟩ := h
  induction hpath with
  | refl => exact ⟨[], first, .here hfirst, rfl, List.not_mem_nil⟩
  | @tail key next _ hedge ih =>
    obtain ⟨trail, name, hreached, rfl, hnew⟩ := ih
    obtain ⟨rule, name', hrule, hname', rfl⟩ := hedge
    have hnext := hreached.trans hnew hrule (.here hname')
    by_cases hmem : Text.lower name' ∈ trail ++ [Text.lower name]
    · -- the path comes back to a name on the way, which was reached before
      exact exists_reached_of_mem_trail hnext hmem List.not_mem_nil
    · exact ⟨_, name', hnext, rfl, hmem⟩

theorem exists_reached_of_occurs (h : Occurs registry n ref) : ∃ trail, Reached registry [] n trail ref := by
  rcases h with href | ⟨key, rule, hkey, hrule, href⟩
  · exact ⟨[], .here href⟩
  · obtain ⟨trail, name, hreached, rfl, hnew⟩ := exists_reached_of_reachable hkey
    exact ⟨_, hreached.trans hnew hrule (.here href)⟩

/-! ## Cycles -/

/-- Where the walk closes no cycle, a path from a name that is reached keeps that name on the way. -/
theorem exists_reached_of_transGen
    (hopen : ∀ trail name, Reached registry [] n trail (.rule name) → Text.lower name ∉ trail)
    {key key' : String} (hkey : Reachable registry n key) (hpath : TransGen (Refers registry) key key') :
    ∃ trail name, Reached registry [] n trail (.rule name) ∧ Text.lower name = key' ∧ key ∈ trail := by
  induction hpath with
  | single hedge =>
    obtain ⟨trail, name, hreached, rfl, -⟩ := exists_reached_of_reachable hkey
    obtain ⟨rule, name', hrule, hname', rfl⟩ := hedge
    have hnext := hreached.trans (hopen trail name hreached) hrule (.here hname')
    exact ⟨_, name', hnext, rfl, List.mem_append_right trail List.mem_cons_self⟩
  | tail _ hedge ih =>
    obtain ⟨trail, name, hreached, rfl, hmem⟩ := ih
    obtain ⟨rule, name', hrule, hname', rfl⟩ := hedge
    have hnext := hreached.trans (hopen trail name hreached) hrule (.here hname')
    exact ⟨_, name', hnext, rfl, List.mem_append_left _ hmem⟩

/-- The walk closes a cycle if there is one that can be reached. -/
theorem closes_cycle_iff : (∃ trail name, Reached registry [] n trail (.rule name) ∧ Text.lower name ∈ trail) ↔
    ∃ key, Reachable registry n key ∧ TransGen (Refers registry) key key := by
  constructor
  · rintro ⟨trail, name, hreached, hmem⟩
    have hleads : Leads registry [] n := fun key hkey => absurd hkey List.not_mem_nil
    exact ⟨_, (occurs_of_reached hreached).reachable, transGen_of_reached hreached hleads _ hmem⟩
  · rintro ⟨key, hkey, hcycle⟩
    by_contra hnone
    have hopen : ∀ trail name, Reached registry [] n trail (.rule name) → Text.lower name ∉ trail :=
      fun trail name hreached hmem => hnone ⟨trail, name, hreached, hmem⟩
    obtain ⟨trail, name, hreached, rfl, hmem⟩ := exists_reached_of_transGen hopen hkey hcycle
    exact hopen trail name hreached hmem

/-- The names form a chain of references that starts in the filter. -/
def ChainFrom (registry : Registry) (n : Node) (names : List String) : Prop :=
  (∃ name, .rule name ∈ n.references ∧ names.head? = some (Text.lower name)) ∧ names.IsChain (Refers registry)

theorem exists_chain_of_reached (h : Reached registry trail n trail' (.rule name)) :
    ∃ names, trail' ++ [Text.lower name] = trail ++ names ∧ ChainFrom registry n names := by
  generalize hlast : Reference.rule name = last at h
  induction h with
  | here hname =>
    exact ⟨[Text.lower name], rfl, ⟨name, hlast ▸ hname, rfl⟩, List.isChain_singleton _⟩
  | @through trail trail' n first rule ref hfirst _ hrule _ ih =>
    obtain ⟨names, happend, ⟨next, hnext, hhead⟩, hchain⟩ := ih hlast
    refine ⟨Text.lower first :: names, by rw [happend, List.append_assoc, List.singleton_append], ?_, ?_⟩
    · exact ⟨first, hfirst, rfl⟩
    · obtain ⟨names', rfl⟩ := List.head?_eq_some_iff.mp hhead
      exact List.isChain_cons_cons.mpr ⟨⟨rule, next, hrule, hnext, rfl⟩, hchain⟩

end

/-! ## The dependencies -/

section

variable {registry : Registry} {n : Node}

theorem mem_fields_iff {name : String} :
    name ∈ (dependencies n registry true).fields ↔ Occurs registry n (.field name) := by
  refine (dependencies_has_iff registry n (.field name)).trans ⟨?_, fun h => ?_⟩
  · rintro ⟨trail, ref, hreached, ⟨⟩⟩
    exact occurs_of_reached hreached
  · obtain ⟨trail, hreached⟩ := exists_reached_of_occurs h
    exact ⟨trail, _, hreached, .field name⟩

theorem mem_aliases_iff {key : String} :
    key ∈ (dependencies n registry true).aliases ↔ Reachable registry n key := by
  refine (dependencies_has_iff registry n (.alias key)).trans ⟨?_, fun h => ?_⟩
  · rintro ⟨trail, ref, hreached, ⟨⟩⟩
    exact (occurs_of_reached hreached).reachable
  · obtain ⟨trail, name, hreached, rfl, hnew⟩ := exists_reached_of_reachable h
    exact ⟨trail, _, hreached, .alias hnew⟩

theorem mem_errors_missing_iff {name : String} :
    .aliasNotFound name ∈ (dependencies n registry true).errors ↔
      Occurs registry n (.rule name) ∧ registry.lookup name = none := by
  refine (dependencies_has_iff registry n (.error (.aliasNotFound name))).trans ⟨?_, fun ⟨h, hnone⟩ => ?_⟩
  · rintro ⟨trail, ref, hreached, hgives⟩
    cases hgives with
    | missing _ hnone => exact ⟨occurs_of_reached hreached, hnone⟩
  · obtain ⟨trail, hreached⟩ := exists_reached_of_occurs h
    -- the names on the way are stored, so that this one is not among them
    have hnew : Text.lower name ∉ trail :=
      fun hmem => (trail_of_reached hreached trail_nil).lookup_ne_none hmem hnone
    exact ⟨trail, _, hreached, .missing hnew hnone⟩

theorem mem_errors_cycle_iff {trace : List String} :
    .cyclicAlias trace ∈ (dependencies n registry true).errors ↔
      ∃ trail name, Reached registry [] n trail (.rule name) ∧ Text.lower name ∈ trail ∧
        trace = trail ++ [Text.lower name] := by
  refine (dependencies_has_iff registry n (.error (.cyclicAlias trace))).trans ⟨?_, ?_⟩
  · rintro ⟨trail, ref, hreached, hgives⟩
    cases hgives with
    | cycle hmem => exact ⟨trail, _, hreached, hmem, rfl⟩
  · rintro ⟨trail, name, hreached, hmem, rfl⟩
    exact ⟨trail, _, hreached, .cycle hmem⟩

end

/-- **The walk over the dependencies computes what is reachable.** It ends, in one state only. The aliases
are the names that the filter leads to, stored or not; the fields are those in the filter and in the rules
below it. A name is reported as missing if it occurs there and is not stored, and some cycle is reported if
one can be reached. The trace of a cycle is a chain of references that starts in the filter, of distinct
names up to the last, which is one of them again. Nothing else is reported. -/
theorem dependencies_exact (registry : Registry) (n : Node) :
    let deps := dependencies n registry true
    (∃ w, Walks registry n.references {} w ∧ (∀ w', Walks registry n.references {} w' → w' = w) ∧
        deps = ⟨w.aliases, w.fields, w.errors⟩) ∧
      (∀ key, key ∈ deps.aliases ↔ Reachable registry n key) ∧
      (∀ name, name ∈ deps.fields ↔ Occurs registry n (.field name)) ∧
      (∀ name, .aliasNotFound name ∈ deps.errors ↔
        Occurs registry n (.rule name) ∧ registry.lookup name = none) ∧
      ((∃ trace, .cyclicAlias trace ∈ deps.errors) ↔
        ∃ key, Reachable registry n key ∧ TransGen (Refers registry) key key) ∧
      (∀ trace, .cyclicAlias trace ∈ deps.errors → ChainFrom registry n trace ∧
        ∃ names last, trace = names ++ [last] ∧ names.Nodup ∧ last ∈ names) ∧
      ∀ err ∈ deps.errors, (∃ name, err = .aliasNotFound name) ∨ ∃ trace, err = .cyclicAlias trace := by
  intro deps
  refine ⟨?_, fun key => mem_aliases_iff, fun name => mem_fields_iff, fun name => mem_errors_missing_iff, ?_, ?_, ?_⟩
  · have hwalk : Walks registry n.references {} _ := walks_of_steps (registry.size + 1) n.references trail_nil rfl
    refine ⟨_, hwalk, fun w' h => h.unique hwalk, ?_⟩
    simp only [deps, dependencies, node_eq_foldl]
  · rw [← closes_cycle_iff]
    constructor
    · rintro ⟨trace, htrace⟩
      obtain ⟨trail, name, hreached, hmem, -⟩ := mem_errors_cycle_iff.mp htrace
      exact ⟨trail, name, hreached, hmem⟩
    · rintro ⟨trail, name, hreached, hmem⟩
      exact ⟨_, mem_errors_cycle_iff.mpr ⟨trail, name, hreached, hmem, rfl⟩⟩
  · intro trace htrace
    obtain ⟨trail, name, hreached, hmem, rfl⟩ := mem_errors_cycle_iff.mp htrace
    obtain ⟨names, happend, hchain⟩ := exists_chain_of_reached hreached
    rw [List.nil_append] at happend
    exact ⟨happend ▸ hchain, trail, _, rfl, (trail_of_reached hreached trail_nil).nodup, hmem⟩
  · intro err herr
    obtain ⟨trail, ref, -, hgives⟩ := (dependencies_has_iff registry n (.error err)).mp herr
    cases hgives with
    | missing => exact .inl ⟨_, rfl⟩
    | cycle => exact .inr ⟨_, rfl⟩

end LogQuery.Filter
