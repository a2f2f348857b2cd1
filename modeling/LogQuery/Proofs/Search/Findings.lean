import LogQuery.Proofs.Keyed
import LogQuery.Search
import Mathlib

/-!
# Proofs.Search.Findings — what a search finds and records

A search evaluates its filter on one entry after another. What it finds, what it records and the groups of
the messages are all read off the list of these verdicts.

* `verdicts_eq`: the verdicts are those on the entries with their indices.
* `get?_group`: the lines that a fold collects under a message.
* `Findings.Exact`, `of_exact`: what the findings say of the entries.
-/

namespace LogQuery.Search

open LogQuery.Filter

/-! ## Groups -/

/-- Add a line to those of a message. -/
def record (groups : Keyed (List ℕ)) (p : String × ℕ) : Keyed (List ℕ) :=
  groups.insert p.1 ((groups.get? p.1).getD [] ++ [p.2])

/-- The lines of a message, in order. -/
def linesOf (pairs : List (String × ℕ)) (message : String) : List ℕ :=
  (pairs.filter fun p => p.1 = message).map Prod.snd

/-- The lines of all messages, collected one by one. -/
def group (pairs : List (String × ℕ)) : Keyed (List ℕ) := pairs.foldl record .empty

theorem group_concat (pairs : List (String × ℕ)) (p : String × ℕ) :
    group (pairs ++ [p]) = record (group pairs) p := List.foldl_concat ..

theorem linesOf_concat (pairs : List (String × ℕ)) (p : String × ℕ) (message : String) :
    linesOf (pairs ++ [p]) message = linesOf pairs message ++ if p.1 = message then [p.2] else [] := by
  rw [linesOf, List.filter_append, List.map_append]
  by_cases h : p.1 = message <;> simp [linesOf, h]

theorem group_ordered (pairs : List (String × ℕ)) : (group pairs).Ordered := by
  induction pairs using List.reverseRecOn with
  | nil => exact Keyed.ordered_empty
  | append_singleton pairs p ih =>
    rw [group_concat]
    exact ih.insert p.1 _

/-- A message that occurs stands over the lines of all its occurrences. -/
theorem get?_group (pairs : List (String × ℕ)) (message : String) :
    (group pairs).get? message =
      if linesOf pairs message = [] then none else some (linesOf pairs message) := by
  induction pairs using List.reverseRecOn generalizing message with
  | nil => rfl
  | append_singleton pairs p ih =>
    rw [group_concat, linesOf_concat, record, Keyed.get?_insert]
    by_cases h : p.1 = message
    · subst h
      have hbefore : ((group pairs).get? p.1).getD [] = linesOf pairs p.1 := by
        rw [ih]
        by_cases hnil : linesOf pairs p.1 = [] <;> simp [hnil]
      rw [if_pos rfl, if_pos rfl, hbefore, if_neg (List.concat_ne_nil _ _)]
    · rw [if_neg h, if_neg h, List.append_nil]
      exact ih message

theorem mem_group {pairs : List (String × ℕ)} {message : String} {lines : List ℕ} :
    (message, lines) ∈ (group pairs).entries ↔ lines = linesOf pairs message ∧ lines ≠ [] := by
  rw [(group_ordered pairs).mem_iff, get?_group]
  split_ifs with h
  · refine iff_of_false not_false ?_
    rintro ⟨rfl, hne⟩
    exact hne h
  · rw [Option.some.injEq]
    refine ⟨?_, fun h => h.1.symm⟩
    rintro rfl
    exact ⟨rfl, h⟩

/-! ## Verdicts -/

namespace Findings

section

variable {e : Evaluator Log.Entry} {node : Node} {entries : List Log.Entry}

theorem verdicts_eq (e : Evaluator Log.Entry) (node : Node) (index : ℕ) (entries : List Log.Entry) :
    verdicts e node index entries = (entries.zipIdx index).map fun p => (p.2, p.1, e.evaluate node p.1) := by
  induction entries generalizing index with
  | nil => rfl
  | cons entry rest ih => rw [verdicts, ih, List.zipIdx_cons, List.map_cons]

theorem verdicts_increasing : (verdicts e node 0 entries).Pairwise fun a b => a.1 < b.1 := by
  have hindices : (entries.zipIdx.map Prod.snd).Pairwise (· < ·) := by
    rw [List.zipIdx_map_snd]
    exact List.pairwise_lt_range'
  rw [verdicts_eq, List.pairwise_map]
  exact List.pairwise_map.mp hindices

theorem mem_verdicts {i : ℕ} {entry : Log.Entry} {verdict : Bool × Context} :
    (i, entry, verdict) ∈ verdicts e node 0 entries ↔
      entries[i]? = some entry ∧ e.evaluate node entry = verdict := by
  rw [verdicts_eq, List.mem_map]
  constructor
  · rintro ⟨p, hp, heq⟩
    cases heq
    exact ⟨List.mem_zipIdx_iff_getElem?.mp hp, rfl⟩
  · rintro ⟨hentry, rfl⟩
    exact ⟨(entry, i), List.mem_zipIdx_iff_getElem?.mpr hentry, rfl⟩

/-- What is kept of the verdicts stays in the order of the entries. -/
theorem filterMap_verdicts_increasing {α : Type} (index : α → ℕ)
    {f : ℕ × Log.Entry × Bool × Context → Option α} (hf : ∀ v a, f v = some a → index a = v.1) :
    ((verdicts e node 0 entries).filterMap f).Pairwise fun a b => index a < index b := by
  refine verdicts_increasing.filterMap f fun v v' hlt a ha b hb => ?_
  rw [hf v a ha, hf v' b hb]
  exact hlt

theorem of_found_increasing : (of e node entries).found.Pairwise (· < ·) := by
  refine filterMap_verdicts_increasing id fun v i hi => ?_
  obtain ⟨-, hindex⟩ := Option.ite_none_right_eq_some.mp hi
  exact (Option.some.inj hindex).symm

theorem mem_of_found {i : ℕ} :
    i ∈ (of e node entries).found ↔ ∃ entry, entries[i]? = some entry ∧ (e.evaluate node entry).1 = true := by
  refine List.mem_filterMap.trans ⟨?_, ?_⟩
  · rintro ⟨⟨index, entry, accepted, c⟩, hverdict, hi⟩
    obtain ⟨haccepted, hindex⟩ := Option.ite_none_right_eq_some.mp hi
    obtain ⟨hentry, heq⟩ := mem_verdicts.mp hverdict
    exact ⟨entry, Option.some.inj hindex ▸ hentry, heq ▸ haccepted⟩
  · rintro ⟨entry, hentry, haccepted⟩
    exact ⟨_, mem_verdicts.mpr ⟨hentry, rfl⟩, if_pos haccepted⟩

theorem of_diagnostics_increasing :
    (of e node entries).diagnostics.Pairwise fun a b => a.index < b.index := by
  refine filterMap_verdicts_increasing Diagnostic.index fun v d hd => ?_
  obtain ⟨-, hrecorded⟩ := Option.ite_none_left_eq_some.mp hd
  exact congrArg Diagnostic.index (Option.some.inj hrecorded).symm

theorem mem_of_diagnostics {d : Diagnostic} :
    d ∈ (of e node entries).diagnostics ↔ ∃ entry, entries[d.index]? = some entry ∧
      d.line = entry.line ∧ d.errors = (e.evaluate node entry).2.errors ∧ d.errors ≠ [] := by
  refine List.mem_filterMap.trans ⟨?_, ?_⟩
  · rintro ⟨⟨index, entry, accepted, c⟩, hverdict, hd⟩
    obtain ⟨herrors, hrecorded⟩ := Option.ite_none_left_eq_some.mp hd
    obtain ⟨hentry, heq⟩ := mem_verdicts.mp hverdict
    obtain rfl := Option.some.inj hrecorded
    exact ⟨entry, hentry, rfl, congrArg (fun v => v.2.errors) heq.symm, mt List.isEmpty_iff.mpr herrors⟩
  · obtain ⟨index, line, errors⟩ := d
    rintro ⟨entry, hentry, rfl, rfl, herrors⟩
    exact ⟨_, mem_verdicts.mpr ⟨hentry, rfl⟩, if_neg (mt List.isEmpty_iff.mp herrors)⟩

/-- The lines of the entries, each as often as the message was recorded on the entry. -/
def occurrences (e : Evaluator Log.Entry) (node : Node) (entries : List Log.Entry) (message : String) :
    List ℕ :=
  entries.flatMap fun entry =>
    List.replicate (((e.evaluate node entry).2.errors.map EvalError.message).count message) entry.line

/-- The messages that were recorded, one after another, with the lines of their entries. -/
def recorded (f : Findings) : List (String × ℕ) :=
  f.diagnostics.flatMap fun d => d.errors.map fun err => (err.message, d.line)

theorem grouped_eq (f : Findings) : f.grouped = group f.recorded := rfl

/-- What is kept of a verdict, if errors were recorded. -/
def diagnosticOf (v : ℕ × Log.Entry × Bool × Context) : Option Diagnostic :=
  if v.2.2.2.success then none else some ⟨v.1, v.2.1.line, v.2.2.2.errors⟩

/-- Entries without errors record nothing. -/
theorem of_recorded : (of e node entries).recorded =
    entries.flatMap fun entry => (e.evaluate node entry).2.errors.map fun err => (err.message, entry.line) := by
  have hverdicts (index : ℕ) : ((verdicts e node index entries).filterMap diagnosticOf).flatMap
      (fun d => d.errors.map fun err => (err.message, d.line)) =
      entries.flatMap fun entry =>
        (e.evaluate node entry).2.errors.map fun err => (err.message, entry.line) := by
    induction entries generalizing index with
    | nil => rfl
    | cons entry rest ih =>
      rw [List.flatMap_cons, ← ih (index + 1), verdicts, List.filterMap_cons, diagnosticOf]
      cases hsuccess : (e.evaluate node entry).2.success with
      | true =>
        have hnone : (e.evaluate node entry).2.errors = [] := List.isEmpty_iff.mp hsuccess
        rw [hnone]
        rfl
      | false => rfl
  exact hverdicts 0

theorem linesOf_recorded (message : String) :
    linesOf (of e node entries).recorded message = occurrences e node entries message := by
  rw [linesOf, of_recorded, List.filter_flatMap, List.map_flatMap, occurrences]
  refine List.flatMap_congr fun entry _ => ?_
  have hcount : ((e.evaluate node entry).2.errors.map EvalError.message).count message =
      ((e.evaluate node entry).2.errors.filter fun err => err.message = message).length := by
    rw [List.count, List.countP_map, List.countP_eq_length_filter]
    rfl
  rw [List.filter_map, List.map_map, hcount]
  exact List.map_const' ..

end

/-- The findings say what evaluation said of the entries: which were found, what was recorded on each, and
on which lines each message was. -/
structure Exact (e : Evaluator Log.Entry) (node : Node) (entries : List Log.Entry) (f : Findings) : Prop where
  found_increasing : f.found.Pairwise (· < ·)
  mem_found : ∀ i, i ∈ f.found ↔
    ∃ entry, entries[i]? = some entry ∧ (e.evaluate node entry).1 = true
  diagnostics_increasing : f.diagnostics.Pairwise fun a b => a.index < b.index
  mem_diagnostics : ∀ d, d ∈ f.diagnostics ↔ ∃ entry, entries[d.index]? = some entry ∧
    d.line = entry.line ∧ d.errors = (e.evaluate node entry).2.errors ∧ d.errors ≠ []
  grouped_ordered : f.grouped.Ordered
  mem_grouped : ∀ message lines, (message, lines) ∈ f.grouped.entries ↔
    lines = occurrences e node entries message ∧ lines ≠ []

theorem of_exact (e : Evaluator Log.Entry) (node : Node) (entries : List Log.Entry)
    (colors : List (ℕ × ℕ)) : Exact e node entries { of e node entries with colors } where
  found_increasing := of_found_increasing
  mem_found _ := mem_of_found
  diagnostics_increasing := of_diagnostics_increasing
  mem_diagnostics _ := mem_of_diagnostics
  grouped_ordered := by
    rw [grouped_eq]
    exact group_ordered _
  mem_grouped message lines := by
    rw [grouped_eq, ← linesOf_recorded message]
    exact mem_group

end Findings

end LogQuery.Search
