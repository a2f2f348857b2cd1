import LogQuery.Filter.Library
import LogQuery.Proofs.Filter.Dependence
import LogQuery.Proofs.Filter.Tokens
import LogQuery.Proofs.Keyed

/-!
# Proofs.Filter.Library — what holds of a library after any calls

Before a rule is stored, a walk over what it refers to looks for cycles. The walk starts at that rule
only, and this is enough: every cycle that was not there before passes through it.

* `Refers`: the graph of the references between saved filters.
* `not_transGen_of_clean`: a walk without an error comes back to no name on its way.
* `add_cases`, `replace_cases`: an update that stores a rule leaves the library as it was, or stores the rule under its
  name (`Stored`). `change_step`: all that a call can do.
* `Library.Kept`: rules stand under their names, and no rule comes back to itself. `Library.Step.kept` is the
  step, `run_kept` the run.
* `run_library`: the invariant after any calls, and that evaluation then meets no cycle.
-/

namespace LogQuery.Filter

open Relation

/-! ## The graph of references -/

/-- The saved filter under `key` refers to the name `key'`, in lower case. -/
def Refers (registry : Registry) (key key' : String) : Prop :=
  ∃ rule name, registry.get? key = some rule ∧ .rule name ∈ rule.root.references ∧
    Text.lower name = key'

/-- No saved filter comes back to itself along references. -/
def Acyclic (registry : Registry) : Prop := ∀ key, ¬ TransGen (Refers registry) key key

/-- Every name that a saved filter refers to is stored. -/
def Resolved (registry : Registry) : Prop :=
  ∀ key key', Refers registry key key' → ∃ rule, registry.get? key' = some rule

/-- Nothing that is reached from a filter is missing or closes a cycle. -/
def Clean (registry : Registry) (n : Node) : Prop :=
  ∀ trail name, Reached registry [] n trail (.rule name) →
    Text.lower name ∉ trail ∧ ∃ rule, registry.lookup name = some rule

section

variable {registry : Registry} {n : Node}

theorem clean_of_dependencies (h : (dependencies n registry true).errors = []) : Clean registry n := by
  intro trail name hreached
  have hnone : ∀ err, err ∉ (dependencies n registry true).errors := by
    rw [h]
    exact fun err => List.not_mem_nil
  have hnew : Text.lower name ∉ trail := fun hmem => hnone _ (dependencies_has hreached (.cycle hmem))
  refine ⟨hnew, Option.ne_none_iff_exists'.mp fun hlookup => ?_⟩
  exact hnone _ (dependencies_has hreached (.missing hnew hlookup))

/-- Along references the walk follows every saved filter, with the names on the way in its trail. -/
theorem exists_trail_of_path (hclean : Clean registry n) {name : String} (hname : .rule name ∈ n.references)
    {key : String} (hpath : ReflTransGen (Refers registry) (Text.lower name) key) :
    ∃ trail rule, Text.lower name ∈ trail ∧ registry.get? key = some rule ∧
      ∀ trail' ref, Reached registry trail rule.root trail' ref → Reached registry [] n trail' ref := by
  induction hpath with
  | refl =>
    obtain ⟨-, rule, hrule⟩ := hclean [] name (.here hname)
    refine ⟨[Text.lower name], rule, List.mem_cons_self, hrule, fun trail' ref h => ?_⟩
    exact .through hname List.not_mem_nil hrule h
  | tail _ hedge ih =>
    obtain ⟨trail, rule, hmem, hrule, hreach⟩ := ih
    obtain ⟨rule', name', hrule', hname', rfl⟩ := hedge
    obtain rfl : rule = rule' := Option.some.inj (hrule.symm.trans hrule')
    obtain ⟨hnew, next, hnext⟩ := hclean trail name' (hreach _ _ (.here hname'))
    refine ⟨trail ++ [Text.lower name'], next, List.mem_append_left _ hmem, hnext, fun trail' ref h => ?_⟩
    exact hreach trail' ref (.through hname' hnew hnext h)

/-- **A clean walk finds every cycle through where it starts.** -/
theorem not_transGen_of_clean (hclean : Clean registry n) {name : String}
    (hname : .rule name ∈ n.references) :
    ¬ TransGen (Refers registry) (Text.lower name) (Text.lower name) := by
  intro hcycle
  obtain ⟨key, hpath, hlast⟩ := TransGen.tail'_iff.mp hcycle
  obtain ⟨trail, rule, hmem, hrule, hreach⟩ := exists_trail_of_path hclean hname hpath
  obtain ⟨rule', name', hrule', hname', hback⟩ := hlast
  obtain rfl : rule = rule' := Option.some.inj (hrule.symm.trans hrule')
  refine (hclean trail name' (hreach _ _ (.here hname'))).1 ?_
  rw [hback]
  exact hmem

/-- What a saved filter refers to is stored, if the walk that starts at it is clean. -/
theorem exists_get?_of_clean (hclean : Clean registry n) {name : String} (hname : .rule name ∈ n.references)
    {key : String} (h : Refers registry (Text.lower name) key) : ∃ rule, registry.get? key = some rule := by
  obtain ⟨-, rule, -, hrule, -⟩ := exists_trail_of_path hclean hname (.single h)
  exact ⟨rule, hrule⟩

end

/-! ## Changes of the graph -/

/-- A path that is new passes through the node whose edges are new. -/
theorem transGen_or_through {α : Type} {R R' : α → α → Prop} {x : α}
    (hsame : ∀ a b, a ≠ x → R' a b → R a b) {a b : α} (h : TransGen R' a b) :
    TransGen R a b ∨ ReflTransGen R' a x ∧ TransGen R' x b := by
  induction h with
  | @single b hab =>
    by_cases hax : a = x
    · exact .inr ⟨hax ▸ .refl, hax ▸ .single hab⟩
    · exact .inl (.single (hsame a b hax hab))
  | @tail b c hab hbc ih =>
    by_cases hbx : b = x
    · subst hbx
      exact .inr ⟨hab.to_reflTransGen, .single hbc⟩
    · rcases ih with hold | ⟨hto, hfrom⟩
      · exact .inl (hold.tail (hsame b c hbx hbc))
      · exact .inr ⟨hto, hfrom.tail hbc⟩

section

variable {registry : Registry} {key : String} {rule : Rule}

theorem refers_of_insert {a b : String} (ha : a ≠ key) (h : Refers (registry.insert key rule) a b) :
    Refers registry a b := by
  obtain ⟨stored, name, hget, hname, hb⟩ := h
  rw [Keyed.get?_insert, if_neg ha.symm] at hget
  exact ⟨stored, name, hget, hname, hb⟩

theorem refers_of_erase {a b : String} (h : Refers (registry.erase key) a b) : Refers registry a b := by
  obtain ⟨stored, name, hget, hname, hb⟩ := h
  rw [Keyed.get?_erase] at hget
  split_ifs at hget
  exact ⟨stored, name, hget, hname, hb⟩

theorem Acyclic.insert (h : Acyclic registry)
    (hkey : ¬ TransGen (Refers (registry.insert key rule)) key key) : Acyclic (registry.insert key rule) := by
  intro a hcycle
  rcases transGen_or_through (fun _ _ => refers_of_insert) hcycle with hold | ⟨hto, hfrom⟩
  · exact h a hold
  · exact hkey (hfrom.trans_left hto)

theorem Acyclic.erase (h : Acyclic registry) (key : String) : Acyclic (registry.erase key) :=
  fun a hcycle => h a (TransGen.mono (fun _ _ => refers_of_erase) a a hcycle)

theorem Resolved.insert (h : Resolved registry)
    (hkey : ∀ b, Refers (registry.insert key rule) key b →
      ∃ stored, (registry.insert key rule).get? b = some stored) : Resolved (registry.insert key rule) := by
  intro a b hab
  by_cases ha : a = key
  · exact hkey b (ha ▸ hab)
  · obtain ⟨stored, hstored⟩ := h a b (refers_of_insert ha hab)
    rw [Keyed.get?_insert]
    split_ifs
    exacts [⟨rule, rfl⟩, ⟨stored, hstored⟩]

theorem Resolved.erase_of_none (h : Resolved registry) (hkey : registry.get? key = none) :
    Resolved (registry.erase key) := by
  intro a b hab
  obtain ⟨stored, hstored⟩ := h a b (refers_of_erase hab)
  have hne : key ≠ b := by
    rintro rfl
    exact absurd hstored (by rw [hkey]; exact (Option.some_ne_none stored).symm)
  exact ⟨stored, by rw [Keyed.get?_erase, if_neg hne, hstored]⟩

end

/-! ## Evaluation without cycles -/

/-- The names on the trail lead to all that the filter refers to. -/
def Leads (registry : Registry) (trail : List String) (n : Node) : Prop :=
  ∀ key ∈ trail, ∀ name, .rule name ∈ n.references → TransGen (Refers registry) key (Text.lower name)

theorem transGen_of_reached {registry : Registry} {trail trail' : List String} {n : Node} {name : String}
    (h : Reached registry trail n trail' (.rule name)) (hleads : Leads registry trail n) :
    ∀ key ∈ trail', TransGen (Refers registry) key (Text.lower name) := by
  generalize href : Reference.rule name = ref at h
  induction h with
  | here h =>
    subst href
    exact fun key hkey => hleads key hkey name h
  | @through trail trail' n next rule ref hnext hnew hrule h ih =>
    refine ih (fun key hkey name' hname' => ?_) href
    have hstep : Refers registry (Text.lower next) (Text.lower name') := ⟨rule, name', hrule, hname', rfl⟩
    rcases List.mem_append.mp hkey with hkey | hkey
    · exact (hleads key hkey next hnext).tail hstep
    · rw [List.mem_singleton.mp hkey]
      exact .single hstep

/-- Where no saved filter comes back to itself, evaluation meets no cycle. -/
theorem evaluate_not_cyclic {ρ : Type} (e : Evaluator ρ) (record : ρ) (h : Acyclic e.registry) (n : Node)
    (trace : List String) : .cyclicAlias trace ∉ (e.evaluate n record).2.errors := by
  intro herr
  cases evaluate_explained e record herr with
  | cycle hreached hmem =>
    have hleads : Leads e.registry [] n := fun key hkey => absurd hkey List.not_mem_nil
    exact h _ (transGen_of_reached hreached hleads _ hmem)

/-! ## The invariant -/

/-- What every call keeps: the rules are in the order of their keys, each stands under its name in
lower case, the names are not empty and hold allowed characters only, and no rule comes back to itself. -/
structure Library.Kept (l : Library) : Prop where
  ordered : l.rules.Ordered
  named : ∀ entry ∈ l.rules.entries, entry.1 = Text.lower entry.2.name ∧ entry.2.name ≠ "" ∧
    ∀ c ∈ entry.2.name.toList, isNameChar c = true
  acyclic : Acyclic l.rules

theorem kept_empty : Library.Kept {} := by
  refine ⟨List.Pairwise.nil, fun entry h => absurd h List.not_mem_nil, fun key hcycle => ?_⟩
  obtain ⟨-, ⟨rule, name, hget, -⟩, -⟩ := TransGen.head'_iff.mp hcycle
  exact absurd hget.symm (Option.some_ne_none rule)

theorem resolved_empty : Resolved (Library.rules {}) := by
  rintro key key' ⟨rule, name, hget, -⟩
  exact absurd hget.symm (Option.some_ne_none rule)

theorem remove_kept {l : Library} (hl : l.Kept) (name : String) : (l.remove name).2.Kept := by
  refine ⟨hl.ordered.erase _, fun entry hentry => ?_, hl.acyclic.erase _⟩
  exact hl.named entry (List.mem_filter.mp hentry).1

/-! ## Updates -/

section

variable {α β : Type} (l : Library)

/-- An update that is refused ends the whole, with the library that it leaves. -/
theorem update_bind (u : Library.Update α) (f : α → Library.Update β) :
    l.update (u >>= f) = match l.update u with
      | (.ok a, l') => l'.update (f a)
      | (.error err, l') => (.error err, l') := by
  unfold Library.update StateT.run ExceptT.run Id.run
  simp only [bind, ExceptT.bind, ExceptT.mk, StateT.bind, ExceptT.bindCont]
  cases u l with
  | mk answer l' => cases answer <;> rfl

@[simp] theorem update_get : l.update get = (.ok l, l) := rfl

@[simp] theorem update_lift (x : Except LibraryError α) : l.update (liftM x) = (x, l) := rfl

@[simp] theorem update_insert (key : String) (rule : Rule) :
    l.update (.insert key rule) = (.ok (l.rules.get? key), ⟨l.rules.insert key rule⟩) := rfl

end

/-- The library after a rule was stored: the rule has a name and stands under it, and the walk that starts at it is
clean. -/
structure Stored (l : Library) (rule : Rule) (l' : Library) : Prop where
  name_ne : rule.name ≠ ""
  after : l' = ⟨l.rules.insert (Text.lower rule.name) rule⟩
  clean : Clean l'.rules (.alias rule.name)

section

variable {l l' : Library} {rule : Rule}

theorem validate_ok (h : l.validate (Text.lower rule.name) rule = .ok ()) :
    Clean (l.rules.insert (Text.lower rule.name) rule) (.alias rule.name) := by
  simp only [Library.validate] at h
  split_ifs at h with hempty
  rw [Node.aliasOf, sanitize_eq_self rule.name_allowed] at hempty
  exact clean_of_dependencies (List.isEmpty_iff.mp hempty)

/-- **All that adding a rule can do**: it is refused and the library is as it was, or its name was free and it is
stored. -/
theorem add_cases (l : Library) (rule : Rule) :
    (∃ err, l.update (.add rule) = (.error err, l)) ∨
      ∃ l', l.update (.add rule) = (.ok rule, l') ∧ l.rules.get? (Text.lower rule.name) = none ∧
        Stored l rule l' := by
  simp only [Library.Update.add, Library.keyOf, update_bind, update_lift]
  split_ifs with hname
  · exact .inl ⟨.emptyName, rfl⟩
  simp only [update_get]
  split_ifs with htaken
  · exact .inl ⟨.duplicate rule.name, rfl⟩
  simp only [update_bind, update_lift]
  cases hvalid : l.validate (Text.lower rule.name) rule with
  | error err => exact .inl ⟨err, rfl⟩
  | ok =>
    exact .inr ⟨_, rfl, Option.not_isSome_iff_eq_none.mp htaken, hname, rfl, validate_ok hvalid⟩

/-- **All that replacing a rule can do**: it is refused and the library is as it was, or its name was taken and it is
stored. What is stored under the name is known to be there, so storing it gives a rule. -/
theorem replace_cases (l : Library) (rule : Rule) :
    (∃ err, l.update (.replace rule) = (.error err, l)) ∨
      ∃ old l', l.update (.replace rule) = (.ok old, l') ∧ l.rules.get? (Text.lower rule.name) = some old ∧
        Stored l rule l' := by
  simp only [Library.Update.replace, Library.keyOf, update_bind, update_lift]
  split_ifs with hname
  · exact .inl ⟨.emptyName, rfl⟩
  simp only [update_get]
  split_ifs with htaken
  · simp only [update_bind, update_lift]
    cases hvalid : l.validate (Text.lower rule.name) rule with
    | error err => exact .inl ⟨err, rfl⟩
    | ok =>
      obtain ⟨old, hold⟩ := Option.isSome_iff_exists.mp htaken
      simp only [update_insert, hold]
      exact .inr ⟨old, _, rfl, rfl, hname, rfl, validate_ok hvalid⟩
  · exact .inl ⟨.missing rule.name, rfl⟩

/-- A rule is added only if its name is free. -/
theorem add_ok (h : l.add rule = .ok l') : l.rules.get? (Text.lower rule.name) = none ∧ Stored l rule l' := by
  rcases add_cases l rule with ⟨err, hupdate⟩ | ⟨l₁, hupdate, hfree, hstored⟩
  · rw [Library.add, hupdate] at h
    exact nomatch h
  · rw [Library.add, hupdate] at h
    obtain rfl := Except.ok.inj h
    exact ⟨hfree, hstored⟩

/-- A rule is replaced only if it is there, and that one is given back. -/
theorem replace_ok {old : Rule} (h : l.replace rule = .ok (old, l')) :
    l.rules.get? (Text.lower rule.name) = some old ∧ Stored l rule l' := by
  rcases replace_cases l rule with ⟨err, hupdate⟩ | ⟨old', l₁, hupdate, hthere, hstored⟩
  · rw [Library.replace, hupdate] at h
    exact nomatch h
  · rw [Library.replace, hupdate] at h
    obtain ⟨rfl, rfl⟩ := Prod.mk.inj (Except.ok.inj h)
    exact ⟨hthere, hstored⟩

theorem Stored.kept (h : Stored l rule l') (hl : l.Kept) : l'.Kept := by
  obtain ⟨hname, rfl, hclean⟩ := h
  refine ⟨hl.ordered.insert _ _, fun entry hentry => ?_, hl.acyclic.insert ?_⟩
  · rcases Keyed.mem_place hentry with rfl | hentry
    exacts [⟨rfl, hname, rule.name_allowed⟩, hl.named entry hentry]
  · exact not_transGen_of_clean hclean List.mem_cons_self

theorem Stored.resolved (h : Stored l rule l') (hl : Resolved l.rules) : Resolved l'.rules := by
  obtain ⟨-, rfl, hclean⟩ := h
  exact hl.insert fun b => exists_get?_of_clean hclean List.mem_cons_self

end

/-! ## Calls, one after the other -/

/-- A call that changes a library. -/
inductive Change where
  | add (rule : Rule)
  | replace (rule : Rule)
  | remove (name : String)

/-- The answer to a call. -/
inductive Reply where
  | added
  | replaced (old : Rule)
  | removed (old : Option Rule)
  | refused (err : LibraryError)

/-- The answer to a call, and the library after it. -/
def Library.change (l : Library) : Change → Reply × Library
  | .add rule =>
    match l.update (.add rule) with
    | (.ok _, l) => (.added, l)
    | (.error err, l) => (.refused err, l)
  | .replace rule =>
    match l.update (.replace rule) with
    | (.ok old, l) => (.replaced old, l)
    | (.error err, l) => (.refused err, l)
  | .remove name =>
    let (old, l) := l.remove name
    (.removed old, l)

/-- All that a call can do to a library. A removal is never refused. -/
inductive Library.Step (l : Library) : Change → Reply → Library → Prop
  | refused {c : Change} {err : LibraryError} (stores : ∀ name, c ≠ .remove name) : Step l c (.refused err) l
  | added {rule : Rule} {l' : Library} (free : l.rules.get? (Text.lower rule.name) = none)
      (stored : Stored l rule l') : Step l (.add rule) .added l'
  | replaced {rule old : Rule} {l' : Library} (there : l.rules.get? (Text.lower rule.name) = some old)
      (stored : Stored l rule l') : Step l (.replace rule) (.replaced old) l'
  | removed {name : String} : Step l (.remove name) (.removed (l.remove name).1) (l.remove name).2

/-- The answers to calls, one after the other, and the library after them. -/
def Library.run (l : Library) : List Change → List Reply × Library
  | [] => ([], l)
  | c :: cs =>
    let (reply, l) := l.change c
    let (replies, l) := l.run cs
    (reply :: replies, l)

section

variable {l l' : Library} {c : Change} {reply : Reply}

/-- **Every call takes such a step.** -/
theorem change_step (l : Library) (c : Change) : l.Step c (l.change c).1 (l.change c).2 := by
  cases c with
  | add rule =>
    rcases add_cases l rule with ⟨err, hupdate⟩ | ⟨l', hupdate, hfree, hstored⟩
    · simp only [Library.change, hupdate]
      exact .refused fun name => Change.noConfusion
    · simp only [Library.change, hupdate]
      exact .added hfree hstored
  | replace rule =>
    rcases replace_cases l rule with ⟨err, hupdate⟩ | ⟨old, l', hupdate, hthere, hstored⟩
    · simp only [Library.change, hupdate]
      exact .refused fun name => Change.noConfusion
    · simp only [Library.change, hupdate]
      exact .replaced hthere hstored
  | remove name => exact .removed

theorem Library.Step.kept (h : l.Step c reply l') (hl : l.Kept) : l'.Kept := by
  cases h with
  | refused => exact hl
  | added _ stored => exact stored.kept hl
  | replaced _ stored => exact stored.kept hl
  | removed => exact remove_kept hl _

/-- A call that takes no rule out leaves no reference without its rule. -/
theorem Library.Step.resolved (h : l.Step c reply l') (hl : Resolved l.rules)
    (hreply : ∀ old, reply ≠ .removed (some old)) : Resolved l'.rules := by
  cases h with
  | refused => exact hl
  | added _ stored => exact stored.resolved hl
  | replaced _ stored => exact stored.resolved hl
  | removed =>
    refine hl.erase_of_none (Option.eq_none_iff_forall_ne_some.mpr fun old hold => ?_)
    exact hreply old (congrArg Reply.removed hold)

/-- **A call that is refused changes nothing.** -/
theorem Library.Step.unchanged {err : LibraryError} (h : l.Step c (.refused err) l') : l' = l := by
  cases h
  rfl

theorem run_kept (hl : l.Kept) (cs : List Change) : (l.run cs).2.Kept := by
  induction cs generalizing l with
  | nil => exact hl
  | cons c cs ih => exact ih ((change_step l c).kept hl)

theorem run_resolved (hl : Resolved l.rules) (cs : List Change)
    (hcs : ∀ old, .removed (some old) ∉ (l.run cs).1) : Resolved (l.run cs).2.rules := by
  induction cs generalizing l with
  | nil => exact hl
  | cons c cs ih =>
    have hreply : ∀ old, (l.change c).1 ≠ .removed (some old) :=
      fun old h => hcs old (List.mem_cons.mpr (.inl h.symm))
    exact ih ((change_step l c).resolved hl hreply) fun old h => hcs old (List.mem_cons_of_mem _ h)

end

/-- **A library stays sound over every run.** After any calls on the empty library its rules stand
under their names in lower case and none comes back to itself. A call that is refused changes nothing,
and as long as no call took a rule out, every name that a rule refers to is there. So no filter that is
evaluated with the library, the rules of the library among them, meets a cycle. -/
theorem run_library (cs : List Change) :
    (Library.run {} cs).2.Kept ∧
      ((∀ old, .removed (some old) ∉ (Library.run {} cs).1) → Resolved (Library.run {} cs).2.rules) ∧
      (∀ c err, ((Library.run {} cs).2.change c).1 = .refused err →
        ((Library.run {} cs).2.change c).2 = (Library.run {} cs).2) ∧
      ∀ {ρ : Type} (e : Evaluator ρ) (record : ρ) (n : Node) (trace : List String),
        e.registry = (Library.run {} cs).2.rules →
          .cyclicAlias trace ∉ (e.evaluate n record).2.errors := by
  have hkept := run_kept kept_empty cs
  refine ⟨hkept, run_resolved resolved_empty cs, fun c err h => ?_, ?_⟩
  · have hstep := change_step (Library.run {} cs).2 c
    rw [h] at hstep
    exact hstep.unchanged
  · intro ρ e record n trace hregistry
    exact evaluate_not_cyclic e record (hregistry ▸ hkept.acyclic) n trace

/-- Two saved filters, the second a reference to the first. -/
def chained : Library := ⟨⟨[("x", .named "x" (.search "boot")), ("y", .named "y" (.aliasOf "x"))]⟩⟩

/-- A rule that closes a cycle in the place of the first one. -/
def closing : Rule := .named "x" (.aliasOf "y")

/-- The rule that closes the cycle is refused, the two saved filters are still there, and the second is evaluated
without a cycle. -/
theorem run_library_chained :
    let cs : List Change := [.add (.named "x" (.search "boot")), .add (.named "y" (.aliasOf "x"))]
    let e : Evaluator Unit := { resolver := ⟨fun _ _ => none, fun _ => "boot"⟩, registry := chained.rules }
    Library.run {} cs = ([.added, .added], chained) ∧
      (chained.change (.replace closing)).1 = .refused (.invalidDependencies "x" [.cyclicAlias ["x", "y", "x"]]) ∧
      (chained.change (.replace closing)).2 = chained ∧ Resolved chained.rules ∧
      ∀ trace, .cyclicAlias trace ∉ (e.evaluate (.aliasOf "y") ()).2.errors := by
  intro cs e
  have hrun : Library.run {} cs = ([.added, .added], chained) := by cbv
  obtain ⟨-, hresolved, hunchanged, hacyclic⟩ := run_library cs
  rw [hrun] at hresolved hunchanged hacyclic
  have hkey : Library.keyOf closing = .ok "x" := by cbv
  have htaken : chained.rules.contains "x" = true := by cbv
  have hinvalid : chained.validate "x" closing =
      .error (.invalidDependencies "x" [.cyclicAlias ["x", "y", "x"]]) := by
    unfold Library.validate
    cbv
  have hrefused : (chained.change (.replace closing)).1 =
      .refused (.invalidDependencies "x" [.cyclicAlias ["x", "y", "x"]]) := by
    simp [Library.change, Library.Update.replace, update_bind, hkey, htaken, hinvalid]
  refine ⟨hrun, hrefused, hunchanged _ _ hrefused, hresolved fun old h => ?_, fun trace => ?_⟩
  · simp at h
  · exact hacyclic e () (.aliasOf "y") trace rfl

end LogQuery.Filter
