import LogQuery.Proofs.Filter.Outcome

/-!
# Proofs.Filter.Transcript — what evaluation does to its context

Evaluation changes its context by six calls only: it records an error or that the limit was met, goes a
level down or up, and starts or leaves a saved filter. A transcript lists the calls in order, so that
every point of a run is the context after some of them.

* `Call`, `script`: the calls, and the transcript of a visit; `visit_eq_script`: a visit performs it.
* `Ledger`: a context that also stores whether it succeeded and whether the limit was met.
* `Ledger.Sound`: what holds at every point; `Sound.call`: a call that fits keeps it.
* `Balanced`: calls that fit and return to the place where they start; `script_balanced`: transcripts do.
* `visit_restores`: a visit at any point of an evaluation restores its place, and all points are sound.
-/

namespace LogQuery.Filter

/-! ## Calls -/

/-- A change of the context. -/
inductive Call where
  | addError (err : EvalError)
  | exceedDepth (limit : ℕ)
  | descend
  | ascend
  | enter (key : String)
  | leave

/-- The context after a call. -/
def Context.call (c : Context) : Call → Context
  | .addError err => c.addError err
  | .exceedDepth limit => c.exceedDepth limit
  | .descend => c.descend
  | .ascend => c.ascend
  | .enter key => c.enter key
  | .leave => c.leave

/-- A verdict and the calls on the way to it. -/
abbrev Transcript := Bool × List Call

/-- The transcript of a filter while the saved filters of a trail are followed. -/
abbrev Script := List String → Node → Transcript

section

variable {ρ : Type} (e : Evaluator ρ) (record : ρ)

/-- The calls of following a saved filter by name, with `script` for its body. -/
def followScript (script : Script) (trail : List String) (name : String) : Option Bool × List Call :=
  match e.registry.lookup name with
  | none => (none, [.addError (.aliasNotFound name)])
  | some rule =>
    let key := Text.lower name
    if key ∈ trail then (none, [.addError (.cyclicAlias (trail ++ [key]))])
    else
      let t := script (trail ++ [key]) rule.root
      (some t.1, .enter key :: t.2 ++ [.leave])

/-- The calls of looking up a side of a comparison. -/
def sideScript (script : Script) (trail : List String) : Operand → Option Side × List Call
  | .literal l => (some (.literal l), [])
  | .field f =>
    match e.resolver.resolve record f.name with
    | some field => (some (.field f.name field), [])
    | none => (none, [.addError (.fieldNotFound f.name)])
  | .rule name =>
    let t := followScript e script trail name
    (t.1.map fun verdict => .field name ⟨.boolean verdict, .boolean⟩, t.2)

/-- The transcript of a comparison. -/
def comparisonScript (script : Script) (trail : List String) (cmp : Comparison) : Transcript :=
  match sideScript e record script trail cmp.left with
  | (none, calls) => (false, calls)
  | (some left, calls) =>
    match sideScript e record script trail cmp.right with
    | (none, calls') => (false, calls ++ calls')
    | (some right, calls') =>
      match compare cmp.op left right with
      | .ok verdict => (verdict, calls ++ calls')
      | .error err => (false, calls ++ calls' ++ [.addError err])

/-- The transcript of the further parts of an expression. -/
def restScript (script : Node → Transcript) (op : Connective) : Bool → List Node → Transcript
  | verdict, [] => (verdict, [])
  | verdict, node :: nodes =>
    if verdict = decide (op = .or) then (verdict, [])
    else
      let t := script node
      let t' := restScript script op t.1 nodes
      (t'.1, t.2 ++ t'.2)

/-- The transcript of a filter with a number of levels left. -/
def script : ℕ → Script
  | 0, _, _ => (false, [.exceedDepth e.limit])
  | levels + 1, trail, node =>
    let t := match node with
      | .expression op negated first rest =>
        let t := script levels trail first
        let t' := restScript (script levels trail) op t.1 rest
        (t'.1 != negated, t.2 ++ t'.2)
      | .comparison cmp => comparisonScript e record (script levels) trail cmp
      | .search term => (e.searchText record term, [])
      | .alias name =>
        let t := followScript e (script levels) trail name
        (t.1.getD false, t.2)
    (t.1, .descend :: t.2 ++ [.ascend])

/-! ## A visit performs its transcript -/

/-- A visit gives the verdict of the transcript, and the context after its calls. -/
def Performs (visit : Visit) (script : Script) : Prop :=
  ∀ n c, visit n c = ((script c.trail n).1, (script c.trail n).2.foldl Context.call c)

section

variable {visit : Visit} {script : Script} (hv : Performs visit script)
include hv

theorem follow_eq_script (name : String) (c : Context) :
    e.follow visit name c = ((followScript e script c.trail name).1,
      (followScript e script c.trail name).2.foldl Context.call c) := by
  unfold Evaluator.follow followScript
  cases e.registry.lookup name with
  | none => rfl
  | some rule =>
    dsimp only
    split_ifs
    · rfl
    · rw [hv, List.foldl_append]
      rfl

theorem side_eq_script (o : Operand) (c : Context) :
    e.side visit record o c = ((sideScript e record script c.trail o).1,
      (sideScript e record script c.trail o).2.foldl Context.call c) := by
  cases o with
  | literal l => rfl
  | field f =>
    simp only [Evaluator.side, sideScript]
    cases e.resolver.resolve record f.name <;> rfl
  | rule name => simp only [Evaluator.side, sideScript, follow_eq_script e hv]

variable {judge : Judge} (hk : Records visit judge)
include hk

theorem Performs.trail (n : Node) (c : Context) : ((script c.trail n).2.foldl Context.call c).trail = c.trail := by
  have htrail := hk.trail n c
  rwa [hv n c] at htrail

theorem visitComparison_eq_script (cmp : Comparison) (c : Context) :
    e.visitComparison visit record cmp c = ((comparisonScript e record script c.trail cmp).1,
      (comparisonScript e record script c.trail cmp).2.foldl Context.call c) := by
  have htrail := hk.side_trail e record cmp.left c
  unfold Evaluator.visitComparison comparisonScript
  rw [side_eq_script e record hv cmp.left c] at htrail ⊢
  cases hl : sideScript e record script c.trail cmp.left with
  | mk left calls =>
    rw [hl] at htrail
    cases left with
    | none => rfl
    | some left =>
      have hplace : (calls.foldl Context.call c).trail = c.trail := htrail
      simp only [side_eq_script e record hv cmp.right, hplace]
      cases sideScript e record script c.trail cmp.right with
      | mk right calls' =>
        cases right with
        | none => simp only [List.foldl_append]
        | some right =>
          cases hcompare : compare cmp.op left right with
          | ok verdict => simp only [hcompare, List.foldl_append]
          | error err =>
            simp only [hcompare, List.foldl_append]
            rfl

theorem visitRest_eq_script (op : Connective) (verdict : Bool) (nodes : List Node) (c : Context) :
    Evaluator.visitRest visit op verdict nodes c =
      ((restScript (script c.trail) op verdict nodes).1,
        (restScript (script c.trail) op verdict nodes).2.foldl Context.call c) := by
  induction nodes generalizing verdict c with
  | nil => rfl
  | cons node nodes ih =>
    unfold Evaluator.visitRest restScript
    split_ifs
    · rfl
    · simp only [hv node c, ih, hv.trail hk node c, List.foldl_append]

end

/-- **A visit performs its transcript.** -/
theorem visit_eq_script (levels : ℕ) : Performs (e.visit record levels) (script e record levels) := by
  induction levels with
  | zero => exact fun n c => rfl
  | succ levels ih =>
    intro n c
    have hk := visit_eq_outcome e record levels
    have hlevel : ∀ calls : List Call,
        (calls.foldl Context.call c.descend).ascend =
          (Call.descend :: calls ++ [Call.ascend]).foldl Context.call c := by
      intro calls
      rw [List.foldl_append]
      rfl
    cases n with
    | expression op negated first rest =>
      have htrail := ih.trail hk first c.descend
      simp only [Evaluator.visit, Evaluator.visitParts, script, ih first, visitRest_eq_script ih hk, htrail,
        ← List.foldl_append, hlevel]
      rfl
    | comparison cmp =>
      simp only [Evaluator.visit, Evaluator.visitParts, script, visitComparison_eq_script e record ih hk, hlevel]
      rfl
    | search term => rfl
    | «alias» name =>
      simp only [Evaluator.visit, Evaluator.visitParts, script, follow_eq_script e ih, hlevel]
      rfl

end

/-! ## Ledgers -/

/-- A context that also stores whether nothing went wrong so far, and whether the limit was met. Both are
set where an error is recorded; the errors themselves are not looked at again. -/
structure Ledger where
  errors : List EvalError := []
  success : Bool := true
  trail : List String := []
  depth : ℕ := 0
  exceeded : Bool := false

namespace Ledger

/-- What the ledger says without its flags. -/
def context (l : Ledger) : Context := ⟨l.errors, l.trail, l.depth⟩

/-- Record an error. -/
def addError (l : Ledger) (err : EvalError) : Ledger :=
  { l with errors := l.errors ++ [err], success := false }

/-- The ledger after a call. -/
def call (l : Ledger) : Call → Ledger
  | .addError err => l.addError err
  | .exceedDepth limit =>
    if l.exceeded then l else Ledger.addError { l with exceeded := true } (.depthExceeded limit)
  | .descend => { l with depth := l.depth + 1 }
  | .ascend => { l with depth := l.depth - 1 }
  | .enter key => { l with trail := l.trail ++ [key] }
  | .leave => { l with trail := l.trail.dropLast }

/-- What holds at every point of an evaluation with a limit on levels: no saved filter is being evaluated
twice, the limit is kept, and the flags and the report of the limit say what happened. -/
structure Sound (limit : ℕ) (l : Ledger) : Prop where
  nodup : l.trail.Nodup
  depth_le : l.depth ≤ limit
  success_iff : l.success = true ↔ l.errors = []
  exceeded_eq : l.exceeded = l.errors.any EvalError.isDepth
  once : l.errors.countP EvalError.isDepth ≤ 1
  limit_eq : ∀ k, .depthExceeded k ∈ l.errors → k = limit

end Ledger

/-- The call may be made: a level is left below the place, the saved filter is not being evaluated
there, and the limit is reported as such and as it is. -/
def Call.Fits (limit : ℕ) (l : Ledger) : Call → Prop
  | .addError err => err.isDepth = false
  | .exceedDepth k => k = limit
  | .descend => l.depth < limit
  | .enter key => key ∉ l.trail
  | .ascend | .leave => True

namespace Ledger

variable {limit : ℕ} {l : Ledger}

theorem sound_start (limit : ℕ) : Sound limit {} :=
  ⟨List.nodup_nil, Nat.zero_le limit, by simp, rfl, by simp, by simp⟩

theorem Sound.addError (h : l.Sound limit) {err : EvalError} (herr : err.isDepth = false) :
    (l.addError err).Sound limit := by
  refine ⟨h.nodup, h.depth_le, by simp [Ledger.addError], ?_, ?_, fun k hk => ?_⟩
  · simpa [Ledger.addError, herr] using h.exceeded_eq
  · simpa [Ledger.addError, herr] using h.once
  · rcases List.mem_append.mp hk with hk | hk
    · exact h.limit_eq k hk
    · rw [← List.mem_singleton.mp hk] at herr
      exact Bool.noConfusion herr

/-- The first report of the limit is the only one. -/
theorem Sound.exceedDepth (h : l.Sound limit) (hnew : l.exceeded = false) :
    (Ledger.addError { l with exceeded := true } (.depthExceeded limit)).Sound limit := by
  have hnone : ∀ err ∈ l.errors, ¬ err.isDepth = true := List.any_eq_false.mp (h.exceeded_eq ▸ hnew)
  refine ⟨h.nodup, h.depth_le, by simp [Ledger.addError], ?_, ?_, fun k hk => ?_⟩
  · simp [Ledger.addError, EvalError.isDepth]
  · rw [Ledger.addError, List.countP_append, List.countP_eq_zero.mpr hnone]
    exact Nat.le_refl 1
  · rcases List.mem_append.mp hk with hk | hk
    · exact h.limit_eq k hk
    · exact EvalError.depthExceeded.inj (List.mem_singleton.mp hk)

/-- **A call that fits keeps a ledger sound.** -/
theorem Sound.call (h : l.Sound limit) {call : Call} (hfits : call.Fits limit l) : (l.call call).Sound limit := by
  cases call with
  | addError err => exact h.addError hfits
  | exceedDepth k =>
    obtain rfl : k = limit := hfits
    cases hexceeded : l.exceeded with
    | true => simpa [Ledger.call, hexceeded] using h
    | false => simpa [Ledger.call, hexceeded] using h.exceedDepth hexceeded
  | descend => exact { h with depth_le := hfits }
  | ascend => exact { h with depth_le := (Nat.sub_le _ _).trans h.depth_le }
  | enter key =>
    have hnodup : (l.trail ++ [key]).Nodup := by
      rw [← List.concat_eq_append]
      exact h.nodup.concat hfits
    exact { h with nodup := hnodup }
  | leave => exact { h with nodup := h.nodup.sublist (List.dropLast_sublist l.trail) }

/-- The context makes the same call: what the flags say is what the errors say. -/
theorem Sound.context_call (h : l.Sound limit) (call : Call) : (l.call call).context = l.context.call call := by
  cases call with
  | exceedDepth k =>
    simp only [Ledger.call, Context.call, Context.exceedDepth, Ledger.context, ← h.exceeded_eq]
    split_ifs <;> rfl
  | _ => rfl

theorem errors_prefix_call (l : Ledger) (call : Call) : l.errors <+: (l.call call).errors := by
  cases call with
  | addError err => exact List.prefix_append _ _
  | exceedDepth k =>
    unfold Ledger.call
    split_ifs
    exacts [List.prefix_rfl, List.prefix_append _ _]
  | _ => exact List.prefix_rfl

end Ledger

/-! ## Runs -/

/-- Each call fits where it is made. -/
def FitsAll (limit : ℕ) : List Call → Ledger → Prop
  | [], _ => True
  | call :: calls, l => call.Fits limit l ∧ FitsAll limit calls (l.call call)

section

variable {limit : ℕ} {calls calls' : List Call} {l : Ledger}

theorem fitsAll_append : FitsAll limit (calls ++ calls') l ↔
    FitsAll limit calls l ∧ FitsAll limit calls' (calls.foldl Ledger.call l) := by
  induction calls generalizing l with
  | nil => exact (and_iff_right trivial).symm
  | cons call calls ih => simp only [List.cons_append, FitsAll, ih, List.foldl_cons, and_assoc]

/-- **At every point of a run of calls that fit**, the ledger is sound, and the errors from before are as
they were. -/
theorem Ledger.Sound.run (h : l.Sound limit) (hfits : FitsAll limit calls l) :
    ∀ q ∈ calls.scanl Ledger.call l, q.Sound limit ∧ l.errors <+: q.errors := by
  induction calls generalizing l with
  | nil =>
    intro q hq
    rw [List.mem_singleton.mp hq]
    exact ⟨h, List.prefix_rfl⟩
  | cons call calls ih =>
    intro q hq
    rw [List.scanl_cons] at hq
    rcases List.mem_cons.mp hq with rfl | hq
    · exact ⟨h, List.prefix_rfl⟩
    · obtain ⟨hsound, hkept⟩ := ih (h.call hfits.1) hfits.2 q hq
      exact ⟨hsound, (Ledger.errors_prefix_call l call).trans hkept⟩

theorem Ledger.Sound.context_run (h : l.Sound limit) (hfits : FitsAll limit calls l) :
    (calls.foldl Ledger.call l).context = calls.foldl Context.call l.context := by
  induction calls generalizing l with
  | nil => rfl
  | cons call calls ih =>
    rw [List.foldl_cons, List.foldl_cons, ih (h.call hfits.1) hfits.2, h.context_call]

theorem foldl_mem_scanl (calls : List Call) (l : Ledger) :
    calls.foldl Ledger.call l ∈ calls.scanl Ledger.call l := by
  rw [← List.getLast_scanl (List.scanl_ne_nil)]
  exact List.getLast_mem _

end

/-! ## Transcripts return to their place -/

/-- From any point with the trail and the depth, the calls fit and lead back to the trail and the depth. -/
def Balanced (limit : ℕ) (calls : List Call) (trail : List String) (depth : ℕ) : Prop :=
  ∀ l : Ledger, l.trail = trail → l.depth = depth → FitsAll limit calls l ∧
    (calls.foldl Ledger.call l).trail = trail ∧ (calls.foldl Ledger.call l).depth = depth

section

variable {limit : ℕ} {calls calls' : List Call} {trail : List String} {depth : ℕ}

theorem balanced_nil : Balanced limit [] trail depth := fun _ htrail hdepth => ⟨trivial, htrail, hdepth⟩

theorem balanced_addError {err : EvalError} (h : err.isDepth = false) :
    Balanced limit [.addError err] trail depth := fun _ htrail hdepth => ⟨⟨h, trivial⟩, htrail, hdepth⟩

theorem balanced_exceedDepth (limit : ℕ) : Balanced limit [.exceedDepth limit] trail depth := by
  intro l htrail hdepth
  refine ⟨⟨rfl, trivial⟩, ?_⟩
  simp only [List.foldl_cons, List.foldl_nil, Ledger.call]
  split_ifs
  exacts [⟨htrail, hdepth⟩, ⟨htrail, hdepth⟩]

theorem Balanced.append (h : Balanced limit calls trail depth) (h' : Balanced limit calls' trail depth) :
    Balanced limit (calls ++ calls') trail depth := by
  intro l htrail hdepth
  obtain ⟨hfits, htrail', hdepth'⟩ := h l htrail hdepth
  obtain ⟨hfits', hplace⟩ := h' _ htrail' hdepth'
  exact ⟨fitsAll_append.mpr ⟨hfits, hfits'⟩, by rwa [List.foldl_append]⟩

/-- What happens one level below, with the way down and up again. -/
theorem Balanced.level (hdepth : depth < limit) (h : Balanced limit calls trail (depth + 1)) :
    Balanced limit (.descend :: calls ++ [.ascend]) trail depth := by
  rintro l htrail rfl
  obtain ⟨hfits, htrail', hdepth'⟩ := h (l.call .descend) htrail rfl
  refine ⟨⟨hdepth, fitsAll_append.mpr ⟨hfits, trivial, trivial⟩⟩, ?_⟩
  rw [List.foldl_append]
  exact ⟨htrail', congrArg (· - 1) hdepth'⟩

/-- What happens in a saved filter, with its start and its end. -/
theorem Balanced.entered {key : String} (hkey : key ∉ trail) (h : Balanced limit calls (trail ++ [key]) depth) :
    Balanced limit (.enter key :: calls ++ [.leave]) trail depth := by
  rintro l rfl hdepth
  obtain ⟨hfits, htrail', hdepth'⟩ := h (l.call (.enter key)) rfl hdepth
  refine ⟨⟨hkey, fitsAll_append.mpr ⟨hfits, trivial, trivial⟩⟩, ?_⟩
  rw [List.foldl_append]
  exact ⟨(congrArg List.dropLast htrail').trans List.dropLast_concat, hdepth'⟩

variable {ρ : Type} (e : Evaluator ρ) (record : ρ) {script : Script}
  (hs : ∀ trail n, Balanced limit (script trail n).2 trail depth)
include hs

theorem followScript_balanced (trail : List String) (name : String) :
    Balanced limit (followScript e script trail name).2 trail depth := by
  unfold followScript
  split
  · exact balanced_addError rfl
  · dsimp only
    split_ifs with hkey
    · exact balanced_addError rfl
    · exact .entered hkey (hs _ _)

theorem sideScript_balanced (trail : List String) (o : Operand) :
    Balanced limit (sideScript e record script trail o).2 trail depth := by
  cases o with
  | literal l => exact balanced_nil
  | field f =>
    simp only [sideScript]
    split
    · exact balanced_nil
    · exact balanced_addError rfl
  | rule name => exact followScript_balanced e hs trail name

theorem comparisonScript_balanced (trail : List String) (cmp : Comparison) :
    Balanced limit (comparisonScript e record script trail cmp).2 trail depth := by
  have hleft := sideScript_balanced e record hs trail cmp.left
  have hright := sideScript_balanced e record hs trail cmp.right
  unfold comparisonScript
  split
  · rename_i heq
    rwa [heq] at hleft
  · rename_i left calls heq
    rw [heq] at hleft
    split
    · rename_i heq'
      rw [heq'] at hright
      exact hleft.append hright
    · rename_i right calls' heq'
      rw [heq'] at hright
      split
      · exact hleft.append hright
      · rename_i err herr
        obtain ⟨reason, rfl⟩ := compare_mismatch cmp.op left right err herr
        exact (hleft.append hright).append (balanced_addError rfl)

omit hs in
theorem restScript_balanced {script : Node → Transcript} (hs : ∀ n, Balanced limit (script n).2 trail depth)
    (op : Connective) (verdict : Bool) (nodes : List Node) :
    Balanced limit (restScript script op verdict nodes).2 trail depth := by
  induction nodes generalizing verdict with
  | nil => exact balanced_nil
  | cons node nodes ih =>
    unfold restScript
    split_ifs
    · exact balanced_nil
    · exact (hs node).append (ih _)

end

section

variable {ρ : Type} (e : Evaluator ρ) (record : ρ)

/-- **A transcript returns to its place.** With as many levels as are left below the depth, every call of
a visit fits, and the trail and the depth are restored. -/
theorem script_balanced (levels depth : ℕ) (h : depth + levels = e.limit) (trail : List String) (n : Node) :
    Balanced e.limit (script e record levels trail n).2 trail depth := by
  induction levels generalizing depth trail n with
  | zero => exact balanced_exceedDepth e.limit
  | succ levels ih =>
    have hbelow := ih (depth + 1) (by omega)
    refine .level (by omega) ?_
    cases n with
    | expression op negated first rest =>
      exact (hbelow trail first).append (restScript_balanced (hbelow trail) op _ rest)
    | comparison cmp => exact comparisonScript_balanced e record hbelow trail cmp
    | search term => exact balanced_nil
    | «alias» name => exact followScript_balanced e hbelow trail name

/-! ## Points of an evaluation -/

/-- The points of a visit that starts at a point: this one, and the point after each call. -/
def Evaluator.points (n : Node) (p : Ledger) : List Ledger :=
  (script e record (e.limit - p.depth) p.trail n).2.scanl Ledger.call p

/-- The point at which a visit returns. -/
def Evaluator.after (n : Node) (p : Ledger) : Ledger :=
  (script e record (e.limit - p.depth) p.trail n).2.foldl Ledger.call p

theorem after_mem_points (n : Node) (p : Ledger) : e.after record n p ∈ e.points record n p :=
  foldl_mem_scanl _ p

/-- **Visits restore their place.** From a sound point, a visit leads to sound points only. -/
theorem points_sound {p : Ledger} (hp : p.Sound e.limit) (n : Node) :
    ∀ q ∈ e.points record n p, q.Sound e.limit ∧ p.errors <+: q.errors := by
  have hdepth : p.depth + (e.limit - p.depth) = e.limit := Nat.add_sub_of_le hp.depth_le
  exact hp.run (script_balanced e record _ p.depth hdepth p.trail n p rfl rfl).1

/-- **The context of an evaluation is restored, and its errors only grow.** Take any point of the
evaluation of a filter, whatever its registry and its limit, and visit any filter there. The visit
returns at a point with the same depth and the same trail. At this point, and at every point on the way,
the earlier errors come first, the evaluation counts as successful if and only if there are no errors,
the limit on levels is reported once at most and as it is, no saved filter is on the trail twice, and the
depth is within the limit. -/
theorem visit_restores (root n : Node) {p : Ledger} (hp : p ∈ e.points record root {}) :
    let after := e.after record n p
    (e.visit record (e.limit - p.depth) n p.context).2 = after.context ∧
      after.context.success = after.success ∧ after.depth = p.depth ∧ after.trail = p.trail ∧
      after ∈ e.points record n p ∧
      ∀ q ∈ e.points record n p, p.errors <+: q.errors ∧ (q.success = true ↔ q.errors = []) ∧
        q.errors.countP EvalError.isDepth ≤ 1 ∧ (∀ k, .depthExceeded k ∈ q.errors → k = e.limit) ∧
        q.trail.Nodup ∧ q.depth ≤ e.limit := by
  have hsound : p.Sound e.limit := (points_sound e record (Ledger.sound_start e.limit) root p hp).1
  have hdepth : p.depth + (e.limit - p.depth) = e.limit := Nat.add_sub_of_le hsound.depth_le
  obtain ⟨hfits, htrail, hback⟩ := script_balanced e record _ p.depth hdepth p.trail n p rfl rfl
  have hafter := (points_sound e record hsound n _ (after_mem_points e record n p)).1
  refine ⟨?_, ?_, hback, htrail, after_mem_points e record n p, fun q hq => ?_⟩
  · rw [visit_eq_script e record]
    exact (hsound.context_run hfits).symm
  · rw [Bool.eq_iff_iff, hafter.success_iff]
    exact List.isEmpty_iff
  · obtain ⟨hq, hkept⟩ := points_sound e record hsound n q hq
    exact ⟨hkept, hq.success_iff, hq.once, hq.limit_eq, hq.nodup, hq.depth_le⟩

end

/-- Two saved filters that refer to each other, and four levels. -/
def looped : Evaluator Unit where
  resolver := ⟨fun _ _ => none, fun _ => "boot"⟩
  registry := ⟨[("a", .named "a" (.alias "B")), ("b", .named "b" (.alias "A"))]⟩
  maxDepth := 4

/-- The point at which the body of the first one starts. -/
def insideFirst : Ledger where
  trail := ["a"]
  depth := 1

/-- An alternative that closes the cycle, meets the limit, and names a filter that is missing. -/
def threeFailures : Node :=
  .expression .or false (.alias "b")
    [.expression .and false (.expression .and false (.search "boot") []) [], .alias "gone", .search "BOOT"]

theorem visit_restores_looped :
    insideFirst ∈ looped.points () (.alias "A") {} ∧
      (looped.visit () 3 threeFailures insideFirst.context).2 =
        ⟨[.cyclicAlias ["a", "b", "a"], .depthExceeded 4, .aliasNotFound "gone"], ["a"], 1⟩ ∧
      ∀ q ∈ looped.points () threeFailures insideFirst, q.trail.Nodup ∧ q.depth ≤ 4 := by
  have hcalls : (script looped () 4 [] (.alias "A")).2 =
      [.descend, .enter "a", .descend, .enter "b", .descend, .addError (.cyclicAlias ["a", "b", "a"]), .ascend,
        .leave, .ascend, .leave, .ascend] := by cbv
  have hp : insideFirst ∈ looped.points () (.alias "A") {} := by
    have hlimit : looped.limit - 0 = 4 := rfl
    simp [Evaluator.points, hlimit, hcalls, insideFirst, Ledger.call]
  obtain ⟨hvisit, -, -, -, -, hpoints⟩ := visit_restores looped () (.alias "A") threeFailures hp
  have hafter : (looped.after () threeFailures insideFirst).context =
      ⟨[.cyclicAlias ["a", "b", "a"], .depthExceeded 4, .aliasNotFound "gone"], ["a"], 1⟩ := by cbv
  refine ⟨hp, hvisit.trans hafter, fun q hq => ?_⟩
  obtain ⟨-, -, -, -, hnodup, hdepth⟩ := hpoints q hq
  exact ⟨hnodup, hdepth⟩

end LogQuery.Filter
