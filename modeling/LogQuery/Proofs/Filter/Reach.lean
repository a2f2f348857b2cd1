import LogQuery.Filter.Dependencies
import Mathlib.Data.List.Nodup
import Mathlib.Data.List.Perm.Subperm

/-!
# Proofs.Filter.Reach — what can be reached from a filter

A filter refers to fields and to saved filters; a saved filter that is not being followed already is
followed. `Reached` is this relation without an order of steps. The walk over the dependencies keeps no set
of visited names, only the names on its way, and turns back where a name comes up again. It ends, since a
way of distinct names is no longer than the registry.

* `node_eq_foldl`: the walk visits the references of a filter from left to right.
* `Trail.length_le`: a trail of distinct names in the registry is no longer than the registry.
* `Walks`: the walk without a number of steps. `walks_of_steps`: a derivation of it always exists.
* `Walks.has_iff`: what is found is what the references on the way give, and nothing else.
* `dependencies_has_iff`: the dependencies of a filter are made of what is reached from it.
-/

namespace LogQuery

theorem Keyed.mem_keys_of_get? {α : Type} {m : Keyed α} {key : String} {value : α}
    (h : m.get? key = some value) : key ∈ m.keys := by
  obtain ⟨entries⟩ := m
  induction entries with
  | nil => simp [Keyed.get?, Keyed.find] at h
  | cons entry rest ih =>
    obtain ⟨k, v⟩ := entry
    simp only [Keyed.get?, Keyed.find] at h
    split_ifs at h with hk
    · exact hk ▸ List.mem_cons_self
    · exact List.mem_cons_of_mem k (ih h)

namespace Filter

/-! ## References -/

/-- What a filter refers to. -/
inductive Reference where
  | field (name : String)
  | rule (name : String)
  deriving DecidableEq

/-- What a side of a comparison refers to. -/
def Operand.references : Operand → List Reference
  | .field f => [.field f.name]
  | .rule name => [.rule name]
  | .literal _ => []

mutual

/-- What a filter refers to, from left to right. -/
def Node.references : Node → List Reference
  | .expression _ _ first rest => first.references ++ referencesAll rest
  | .comparison c => c.left.references ++ c.right.references
  | .search _ => []
  | .alias name => [.rule name]

/-- What several filters refer to. -/
def referencesAll : List Node → List Reference
  | [] => []
  | node :: nodes => node.references ++ referencesAll nodes

end

theorem references_subset_referencesAll {node : Node} {nodes : List Node} (h : node ∈ nodes) :
    node.references ⊆ referencesAll nodes := by
  induction nodes with
  | nil => exact absurd h List.not_mem_nil
  | cons other nodes ih =>
    rcases List.mem_cons.mp h with rfl | h
    · exact List.subset_append_left _ _
    · exact List.Subset.trans (ih h) (List.subset_append_right _ _)

/-- A reference that is reached from a filter while the saved filters of a trail are followed, with
the trail at its place. -/
inductive Reached (registry : Registry) : List String → Node → List String → Reference → Prop where
  | here {trail : List String} {n : Node} {ref : Reference} (h : ref ∈ n.references) :
      Reached registry trail n trail ref
  | through {trail trail' : List String} {n : Node} {name : String} {rule : Rule} {ref : Reference}
      (hname : .rule name ∈ n.references) (hnew : Text.lower name ∉ trail)
      (hrule : registry.lookup name = some rule)
      (h : Reached registry (trail ++ [Text.lower name]) rule.root trail' ref) :
      Reached registry trail n trail' ref

theorem Reached.mono {registry : Registry} {trail trail' : List String} {m n : Node} {ref : Reference}
    (hsub : ∀ ref ∈ m.references, ref ∈ n.references) (h : Reached registry trail m trail' ref) :
    Reached registry trail n trail' ref := by
  cases h with
  | here h => exact .here (hsub _ h)
  | through hname hnew hrule h => exact .through (hsub _ hname) hnew hrule h

/-! ## Trails -/

/-- The saved filters being followed: distinct names of the registry. -/
structure Trail (registry : Registry) (trail : List String) : Prop where
  nodup : trail.Nodup
  stored : ∀ key ∈ trail, ∃ rule, registry.get? key = some rule

section

variable {registry : Registry} {trail trail' : List String}

theorem trail_nil : Trail registry [] := ⟨List.nodup_nil, fun _ h => absurd h List.not_mem_nil⟩

theorem Trail.enter {name : String} {rule : Rule} (h : Trail registry trail)
    (hnew : Text.lower name ∉ trail) (hrule : registry.lookup name = some rule) :
    Trail registry (trail ++ [Text.lower name]) := by
  refine ⟨?_, fun key hkey => ?_⟩
  · rw [List.nodup_append_comm, List.singleton_append]
    exact List.nodup_cons.mpr ⟨hnew, h.nodup⟩
  · rcases List.mem_append.mp hkey with hkey | hkey
    · exact h.stored key hkey
    · rw [List.mem_singleton.mp hkey]
      exact ⟨rule, hrule⟩

theorem Trail.length_le (h : Trail registry trail) : trail.length ≤ registry.size := by
  have hsub : trail ⊆ registry.keys := by
    intro key hkey
    obtain ⟨rule, hrule⟩ := h.stored key hkey
    exact Keyed.mem_keys_of_get? hrule
  have hlen := (h.nodup.subperm hsub).length_le
  rwa [Keyed.keys, List.length_map] at hlen

/-- What is followed stays a trail. -/
theorem trail_of_reached {n : Node} {ref : Reference} (h : Reached registry trail n trail' ref)
    (ht : Trail registry trail) : Trail registry trail' := by
  induction h with
  | here _ => exact ht
  | through _ hnew hrule _ ih => exact ih (ht.enter hnew hrule)

/-- A name on the trail is in the registry. -/
theorem Trail.lookup_ne_none {name : String} (h : Trail registry trail)
    (hname : Text.lower name ∈ trail) : registry.lookup name ≠ none := by
  obtain ⟨rule, hrule⟩ := h.stored _ hname
  rw [Registry.lookup, hrule]
  exact Option.some_ne_none rule

end

/-! ## The walk -/

/-- Visit a reference. -/
def Walk.visit (follow : String → Walk → Walk) (w : Walk) : Reference → Walk
  | .field name => { w with fields := insertText name w.fields }
  | .rule name => follow name w

section

variable {follow : String → Walk → Walk}

theorem operand_eq_foldl (o : Operand) (w : Walk) :
    Walk.operand follow o w = o.references.foldl (Walk.visit follow) w := by
  cases o <;> rfl

mutual

/-- The walk visits the references of a filter in order. -/
theorem node_eq_foldl : ∀ (n : Node) (w : Walk),
    Walk.node follow n w = n.references.foldl (Walk.visit follow) w
  | .expression op negated first rest, w => by
    rw [Walk.node, Node.references, List.foldl_append, node_eq_foldl first w, nodes_eq_foldl rest]
  | .comparison c, w => by
    rw [Walk.node, Node.references, List.foldl_append, operand_eq_foldl, operand_eq_foldl]
  | .search _, _ => rfl
  | .alias _, _ => rfl

theorem nodes_eq_foldl : ∀ (nodes : List Node) (w : Walk),
    Walk.nodes follow nodes w = (referencesAll nodes).foldl (Walk.visit follow) w
  | [], _ => rfl
  | node :: nodes, w => by
    rw [Walk.nodes, referencesAll, List.foldl_append, node_eq_foldl node w, nodes_eq_foldl nodes]

end

end

/-! ## The walk ends -/

/-- The walk over references, from one state to another. It has no number of steps: a derivation is a
walk that ends. -/
inductive Walks (registry : Registry) : List Reference → Walk → Walk → Prop where
  | done (w : Walk) : Walks registry [] w w
  | field {name : String} {refs : List Reference} {w w' : Walk}
      (h : Walks registry refs { w with fields := insertText name w.fields } w') :
      Walks registry (.field name :: refs) w w'
  | cycle {name : String} {refs : List Reference} {w w' : Walk} (hmem : Text.lower name ∈ w.trail)
      (h : Walks registry refs (w.addError (.cyclicAlias (w.trail ++ [Text.lower name]))) w') :
      Walks registry (.rule name :: refs) w w'
  | missing {name : String} {refs : List Reference} {w w' : Walk} (hnew : Text.lower name ∉ w.trail)
      (hnone : registry.lookup name = none)
      (h : Walks registry refs (Walk.addError
        { w with aliases := insertText (Text.lower name) w.aliases } (.aliasNotFound name)) w') :
      Walks registry (.rule name :: refs) w w'
  | follow {name : String} {rule : Rule} {refs : List Reference} {w w₁ w' : Walk}
      (hnew : Text.lower name ∉ w.trail) (hrule : registry.lookup name = some rule)
      (hbody : Walks registry rule.root.references
        { w with aliases := insertText (Text.lower name) w.aliases,
                 trail := w.trail ++ [Text.lower name] } w₁)
      (h : Walks registry refs { w₁ with trail := w₁.trail.dropLast } w') :
      Walks registry (.rule name :: refs) w w'

section

variable {registry : Registry}

/-- A walk follows the same names after it as before. -/
theorem Walks.trail_eq {refs : List Reference} {w w' : Walk} (h : Walks registry refs w w') :
    w'.trail = w.trail := by
  induction h with
  | done w => rfl
  | field _ ih => exact ih
  | cycle _ _ ih => exact ih
  | missing _ _ _ ih => exact ih
  | follow _ _ _ _ ihbody ih =>
    rw [ih]
    show List.dropLast _ = _
    rw [ihbody, List.dropLast_concat]

/-- There is one walk at most. -/
theorem Walks.unique {refs : List Reference} {w w₁ w₂ : Walk} (h₁ : Walks registry refs w w₁)
    (h₂ : Walks registry refs w w₂) : w₁ = w₂ := by
  induction h₁ generalizing w₂ with
  | done w =>
    cases h₂
    rfl
  | field _ ih =>
    cases h₂ with
    | field h₂ => exact ih h₂
  | cycle hmem _ ih =>
    cases h₂ with
    | cycle _ h₂ => exact ih h₂
    | missing hnew => exact absurd hmem hnew
    | follow hnew => exact absurd hmem hnew
  | missing hnew hnone _ ih =>
    cases h₂ with
    | cycle hmem => exact absurd hmem hnew
    | missing _ _ h₂ => exact ih h₂
    | follow _ hrule => exact absurd (hnone.symm.trans hrule) (Option.some_ne_none _).symm
  | follow hnew hrule _ _ ihbody ih =>
    cases h₂ with
    | cycle hmem => exact absurd hmem hnew
    | missing _ hnone => exact absurd (hnone.symm.trans hrule) (Option.some_ne_none _).symm
    | follow _ hrule' hbody h₂ =>
      obtain rfl := Option.some.inj (hrule.symm.trans hrule')
      obtain rfl := ihbody hbody
      exact ih h₂

section

variable {name : String} {w : Walk} (steps : ℕ)

theorem reference_of_mem (hmem : Text.lower name ∈ w.trail) :
    Walk.reference registry true (steps + 1) name w =
      w.addError (.cyclicAlias (w.trail ++ [Text.lower name])) := by
  simp only [Walk.reference, if_pos hmem]

theorem reference_of_none (hnew : Text.lower name ∉ w.trail) (hnone : registry.lookup name = none) :
    Walk.reference registry true (steps + 1) name w =
      Walk.addError { w with aliases := insertText (Text.lower name) w.aliases } (.aliasNotFound name) := by
  simp only [Walk.reference, if_neg hnew, hnone, Bool.not_true, Bool.false_eq_true, if_false]

theorem reference_of_some {rule : Rule} (hnew : Text.lower name ∉ w.trail)
    (hrule : registry.lookup name = some rule) :
    Walk.reference registry true (steps + 1) name w =
      (let w₁ := rule.root.references.foldl (Walk.visit (Walk.reference registry true steps))
          { w with aliases := insertText (Text.lower name) w.aliases,
                   trail := w.trail ++ [Text.lower name] }
      { w₁ with trail := w₁.trail.dropLast }) := by
  simp only [Walk.reference, if_neg hnew, hrule, Bool.not_true, Bool.false_eq_true, if_false, node_eq_foldl]

end

/-- Every name that is followed is a new one of the registry, so the steps never run out. -/
theorem walks_of_steps (steps : ℕ) (refs : List Reference) {w : Walk} (ht : Trail registry w.trail)
    (hsteps : steps + w.trail.length = registry.size + 1) :
    Walks registry refs w (refs.foldl (Walk.visit (Walk.reference registry true steps)) w) := by
  have hlen := ht.length_le
  induction steps generalizing refs w with
  | zero => omega
  | succ steps ihsteps =>
    induction refs generalizing w with
    | nil => exact .done w
    | cons ref refs ihrefs =>
      rw [List.foldl_cons]
      cases ref with
      | field name => exact .field (ihrefs ht hsteps hlen)
      | rule name =>
        rw [Walk.visit]
        by_cases hmem : Text.lower name ∈ w.trail
        · rw [reference_of_mem steps hmem]
          exact .cycle hmem (ihrefs ht hsteps hlen)
        · cases hlookup : registry.lookup name with
          | none =>
            rw [reference_of_none steps hmem hlookup]
            exact .missing hmem hlookup (ihrefs ht hsteps hlen)
          | some rule =>
            rw [reference_of_some steps hmem hlookup]
            have htrail := ht.enter hmem hlookup
            have hsteps' : steps + (w.trail ++ [Text.lower name]).length = registry.size + 1 := by
              rw [List.length_append, List.length_singleton]
              omega
            have hbody := ihsteps rule.root.references (w := ⟨insertText (Text.lower name) w.aliases, w.fields,
              w.errors, w.trail ++ [Text.lower name]⟩) htrail hsteps' htrail.length_le
            -- behind the body the trail is the one before it
            have hback : ∀ w₁ : Walk, w₁.trail = w.trail ++ [Text.lower name] → w₁.trail.dropLast = w.trail := by
              intro w₁ h
              rw [h, List.dropLast_concat]
            refine .follow hmem hlookup hbody (ihrefs ?_ ?_ ?_) <;>
              simp only [hback _ hbody.trail_eq] <;> assumption

/-! ## What is found -/

/-- Something that a walk collects or reports. -/
inductive Finding where
  | field (name : String)
  | alias (key : String)
  | error (err : EvalError)

/-- The walk has found it. -/
def Walk.Has (w : Walk) : Finding → Prop
  | .field name => name ∈ w.fields
  | .alias key => key ∈ w.aliases
  | .error err => err ∈ w.errors

/-- What a reference gives while the saved filters of a trail are followed. -/
inductive Gives (registry : Registry) (trail : List String) : Reference → Finding → Prop where
  | field (name : String) : Gives registry trail (.field name) (.field name)
  | alias {name : String} (hnew : Text.lower name ∉ trail) :
      Gives registry trail (.rule name) (.alias (Text.lower name))
  | missing {name : String} (hnew : Text.lower name ∉ trail) (hnone : registry.lookup name = none) :
      Gives registry trail (.rule name) (.error (.aliasNotFound name))
  | cycle {name : String} (hmem : Text.lower name ∈ trail) :
      Gives registry trail (.rule name) (.error (.cyclicAlias (trail ++ [Text.lower name])))

/-- What a reference yields: it gives it itself, or a reference does that is reached from its rule. -/
inductive Yields (registry : Registry) (trail : List String) : Reference → Finding → Prop where
  | here {ref : Reference} {f : Finding} (hgives : Gives registry trail ref f) : Yields registry trail ref f
  | through {trail' : List String} {name : String} {rule : Rule} {ref : Reference} {f : Finding}
      (hnew : Text.lower name ∉ trail) (hrule : registry.lookup name = some rule)
      (h : Reached registry (trail ++ [Text.lower name]) rule.root trail' ref)
      (hgives : Gives registry trail' ref f) : Yields registry trail (.rule name) f

section

variable {trail : List String} {f : Finding} {name : String}

theorem yields_references {n : Node} : (∃ ref ∈ n.references, Yields registry trail ref f) ↔
    ∃ trail' ref, Reached registry trail n trail' ref ∧ Gives registry trail' ref f := by
  constructor
  · rintro ⟨ref, href, hgives | ⟨hnew, hrule, h, hgives⟩⟩
    exacts [⟨trail, ref, .here href, hgives⟩, ⟨_, _, .through href hnew hrule h, hgives⟩]
  · rintro ⟨trail', ref, h, hgives⟩
    cases h with
    | here href => exact ⟨ref, href, .here hgives⟩
    | through hname hnew hrule h => exact ⟨_, hname, .through hnew hrule h hgives⟩

theorem yields_field : Yields registry trail (.field name) f ↔ f = .field name := by
  constructor
  · rintro ⟨⟨⟩⟩
    rfl
  · rintro rfl
    exact .here (.field name)

theorem yields_of_mem (hmem : Text.lower name ∈ trail) :
    Yields registry trail (.rule name) f ↔ f = .error (.cyclicAlias (trail ++ [Text.lower name])) := by
  constructor
  · rintro ((- | hnew | ⟨hnew, -⟩ | -) | ⟨hnew⟩)
    · exact absurd hmem hnew
    · exact absurd hmem hnew
    · rfl
    · exact absurd hmem hnew
  · rintro rfl
    exact .here (.cycle hmem)

theorem yields_of_none (hnew : Text.lower name ∉ trail) (hnone : registry.lookup name = none) :
    Yields registry trail (.rule name) f ↔ f = .alias (Text.lower name) ∨ f = .error (.aliasNotFound name) := by
  constructor
  · rintro ((- | - | - | hmem) | ⟨-, hrule⟩)
    · exact .inl rfl
    · exact .inr rfl
    · exact absurd hmem hnew
    · exact absurd (hnone.symm.trans hrule) (Option.some_ne_none _).symm
  · rintro (rfl | rfl)
    exacts [.here (.alias hnew), .here (.missing hnew hnone)]

theorem yields_of_some {rule : Rule} (hnew : Text.lower name ∉ trail) (hrule : registry.lookup name = some rule) :
    Yields registry trail (.rule name) f ↔ f = .alias (Text.lower name) ∨
      ∃ ref ∈ rule.root.references, Yields registry (trail ++ [Text.lower name]) ref f := by
  rw [yields_references]
  constructor
  · rintro ((- | - | ⟨-, hnone⟩ | hmem) | ⟨-, hrule', h, hgives⟩)
    · exact .inl rfl
    · exact absurd (hnone.symm.trans hrule) (Option.some_ne_none rule).symm
    · exact absurd hmem hnew
    · obtain rfl := Option.some.inj (hrule.symm.trans hrule')
      exact .inr ⟨_, _, h, hgives⟩
  · rintro (rfl | ⟨trail', ref, h, hgives⟩)
    exacts [.here (.alias hnew), .through hnew hrule h hgives]

end

theorem has_field (w : Walk) (name : String) (f : Finding) :
    Walk.Has { w with fields := insertText name w.fields } f ↔ w.Has f ∨ f = .field name := by
  cases f <;> simp [Walk.Has, mem_insertText, or_comm]

theorem has_alias (w : Walk) (key : String) (f : Finding) :
    Walk.Has { w with aliases := insertText key w.aliases } f ↔ w.Has f ∨ f = .alias key := by
  cases f <;> simp [Walk.Has, mem_insertText, or_comm]

theorem has_addError (w : Walk) (err : EvalError) (f : Finding) :
    (w.addError err).Has f ↔ w.Has f ∨ f = .error err := by
  cases f <;> simp [Walk.Has, Walk.addError]

/-- The names being followed are no findings. -/
theorem has_trail (w : Walk) (trail : List String) (f : Finding) :
    Walk.Has { w with trail := trail } f ↔ w.Has f := by
  cases f <;> rfl

/-- **A walk finds what its references yield, and nothing else.** -/
theorem Walks.has_iff {refs : List Reference} {w w' : Walk} (h : Walks registry refs w w') (f : Finding) :
    w'.Has f ↔ w.Has f ∨ ∃ ref ∈ refs, Yields registry w.trail ref f := by
  induction h with
  | done w => simp
  | field _ ih =>
    rw [ih, has_field, or_assoc, List.exists_mem_cons_iff, yields_field]
  | cycle hmem _ ih =>
    rw [ih, has_addError, or_assoc, List.exists_mem_cons_iff, yields_of_mem hmem]
    rfl
  | missing hnew hnone _ ih =>
    rw [ih, has_addError, has_alias, List.exists_mem_cons_iff, yields_of_none hnew hnone, or_assoc, or_assoc,
      or_assoc]
    rfl
  | @follow name rule refs w w₁ w' hnew hrule hbody _ ihbody ih =>
    have hback : w₁.trail.dropLast = w.trail := by
      rw [hbody.trail_eq, List.dropLast_concat]
    have hstart : Walk.Has ⟨insertText (Text.lower name) w.aliases, w.fields, w.errors,
        w.trail ++ [Text.lower name]⟩ f ↔ w.Has f ∨ f = .alias (Text.lower name) :=
      (has_trail _ _ f).trans (has_alias w (Text.lower name) f)
    rw [ih, has_trail, ihbody, hstart, List.exists_mem_cons_iff, yields_of_some hnew hrule, hback]
    simp only [or_assoc]

/-- What the dependencies of a filter are made of is what is reached from it. -/
theorem dependencies_has_iff (registry : Registry) (n : Node) (f : Finding) :
    (Walk.node (Walk.reference registry true (registry.size + 1)) n {}).Has f ↔
      ∃ trail ref, Reached registry [] n trail ref ∧ Gives registry trail ref f := by
  have hwalk : Walks registry n.references {} _ := walks_of_steps (registry.size + 1) n.references trail_nil rfl
  rw [node_eq_foldl, hwalk.has_iff, yields_references]
  have hempty : ¬ Walk.Has {} f := by
    cases f <;> exact List.not_mem_nil
  exact or_iff_right hempty

theorem dependencies_has {trail : List String} {n : Node} {ref : Reference} {f : Finding}
    (h : Reached registry [] n trail ref) (hgives : Gives registry trail ref f) :
    (Walk.node (Walk.reference registry true (registry.size + 1)) n {}).Has f :=
  (dependencies_has_iff registry n f).mpr ⟨trail, ref, h, hgives⟩

end

end Filter

end LogQuery
