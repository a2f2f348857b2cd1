import LogQuery.Keyed
import Mathlib.Data.List.Sort
import Mathlib.Data.String.Basic

/-!
# Proofs.Keyed — ordered lists and the order of keys

* `pairwise_insertOrdered`, `insertAll`: adding values to an increasing list keeps it increasing.
* `Keyed.Ordered`: the keys are in increasing order. `insert` adds its key to the ordered list of the keys
  (`keys_insert`), so it keeps the order, and `erase` does.
* `Keyed.Ordered.mem_iff`: the pairs of an ordered collection are what its keys look up.
-/

namespace LogQuery

/-! ## Increasing lists -/

section

variable {α : Type} [LinearOrder α] {a : α} {set : List α}

theorem pairwise_insertOrdered (h : set.Pairwise (· < ·)) : (insertOrdered a set).Pairwise (· < ·) := by
  induction set with
  | nil => exact List.pairwise_singleton _ _
  | cons b rest ih =>
    obtain ⟨hfirst, hrest⟩ := List.pairwise_cons.mp h
    unfold insertOrdered
    split_ifs with hlt heq
    · refine List.pairwise_cons.mpr ⟨fun c hc => ?_, h⟩
      rcases List.mem_cons.mp hc with rfl | hc
      exacts [hlt, hlt.trans (hfirst c hc)]
    · exact h
    · refine List.pairwise_cons.mpr ⟨fun c hc => ?_, ih hrest⟩
      rcases mem_insertOrdered.mp hc with rfl | hc
      · exact lt_of_le_of_ne (not_lt.mp hlt) heq
      · exact hfirst c hc

/-- A value that is new stands among the others, once. -/
theorem perm_insertOrdered (h : a ∉ set) : (insertOrdered a set).Perm (a :: set) := by
  induction set with
  | nil => exact .refl _
  | cons b rest ih =>
    obtain ⟨hne, hrest⟩ := List.ne_and_not_mem_of_not_mem_cons h
    unfold insertOrdered
    split_ifs with hlt heq
    · exact .refl _
    · exact absurd heq.symm hne
    · exact ((ih hrest).cons b).trans (.swap a b rest)

/-- A list with the values of another one added, one by one. -/
def insertAll (values set : List α) : List α := values.foldl (fun set a => insertOrdered a set) set

theorem mem_insertAll {values : List α} : a ∈ insertAll values set ↔ a ∈ values ∨ a ∈ set := by
  induction values generalizing set with
  | nil => simp [insertAll]
  | cons b values ih =>
    show a ∈ insertAll values (insertOrdered b set) ↔ _
    rw [ih, mem_insertOrdered, List.mem_cons, or_left_comm, or_assoc]

theorem pairwise_insertAll {values : List α} (h : set.Pairwise (· < ·)) :
    (insertAll values set).Pairwise (· < ·) := by
  induction values generalizing set with
  | nil => exact h
  | cons b values ih => exact ih (pairwise_insertOrdered h)

end

/-! ## Entries in the order of their keys -/

namespace Keyed

variable {α : Type}

theorem mem_place {key : String} {value : α} {entry : String × α} {entries : List (String × α)}
    (h : entry ∈ place key value entries) : entry = (key, value) ∨ entry ∈ entries := by
  induction entries with
  | nil => exact .inl (List.mem_singleton.mp h)
  | cons first rest ih =>
    obtain ⟨k, old⟩ := first
    unfold place at h
    split_ifs at h
    · exact List.mem_cons.mp h
    · rcases List.mem_cons.mp h with h | h
      exacts [.inl h, .inr (List.mem_cons_of_mem _ h)]
    · rcases List.mem_cons.mp h with h | h
      · exact .inr (h ▸ List.mem_cons_self)
      · exact (ih h).imp_right (List.mem_cons_of_mem _)

theorem mem_foldl_insert {pairs : List (String × α)} {m : Keyed α} {entry : String × α}
    (h : entry ∈ (pairs.foldl (fun m (key, value) => m.insert key value) m).entries) :
    entry ∈ pairs ∨ entry ∈ m.entries := by
  induction pairs generalizing m with
  | nil => exact .inr h
  | cons first pairs ih =>
    obtain ⟨key, value⟩ := first
    rcases ih h with h | h
    · exact .inl (List.mem_cons_of_mem _ h)
    · rcases mem_place h with rfl | h
      exacts [.inl List.mem_cons_self, .inr h]

theorem mem_ofList {pairs : List (String × α)} {entry : String × α} (h : entry ∈ (ofList pairs).entries) :
    entry ∈ pairs :=
  (mem_foldl_insert h).resolve_right List.not_mem_nil

/-- The keys are in increasing order, so that each stands there once. -/
def Ordered (m : Keyed α) : Prop := m.entries.Pairwise fun a b => a.1 < b.1

theorem ordered_empty : (empty : Keyed α).Ordered := List.Pairwise.nil

theorem ordered_iff {m : Keyed α} : m.Ordered ↔ m.keys.Pairwise (· < ·) := List.pairwise_map.symm

theorem keys_insert (m : Keyed α) (key : String) (value : α) :
    (m.insert key value).keys = insertOrdered key m.keys := by
  obtain ⟨entries⟩ := m
  show (place key value entries).map Prod.fst = insertOrdered key (entries.map Prod.fst)
  induction entries with
  | nil => rfl
  | cons first rest ih =>
    obtain ⟨k, old⟩ := first
    rw [List.map_cons, place, insertOrdered]
    split_ifs with hlt heq
    · rfl
    · rw [List.map_cons, heq]
    · rw [List.map_cons, ih]

theorem Ordered.insert {m : Keyed α} (h : m.Ordered) (key : String) (value : α) :
    (m.insert key value).Ordered := by
  rw [ordered_iff, keys_insert]
  exact pairwise_insertOrdered (ordered_iff.mp h)

theorem Ordered.erase {m : Keyed α} (h : m.Ordered) (key : String) : (m.erase key).Ordered :=
  h.sublist List.filter_sublist

theorem find_of_mem {key : String} {value : α} {entries : List (String × α)}
    (h : entries.Pairwise fun a b => a.1 < b.1) (hmem : (key, value) ∈ entries) :
    find key entries = some value := by
  induction entries with
  | nil => exact absurd hmem List.not_mem_nil
  | cons first rest ih =>
    obtain ⟨k, old⟩ := first
    obtain ⟨hfirst, hrest⟩ := List.pairwise_cons.mp h
    rcases List.mem_cons.mp hmem with heq | hmem
    · cases heq
      exact if_pos rfl
    · have hne : k ≠ key := (hfirst _ hmem).ne
      rw [find, if_neg hne, ih hrest hmem]

theorem mem_of_find {key : String} {value : α} {entries : List (String × α)}
    (h : find key entries = some value) : (key, value) ∈ entries := by
  induction entries with
  | nil => exact nomatch h
  | cons first rest ih =>
    obtain ⟨k, old⟩ := first
    unfold find at h
    split_ifs at h with heq
    · cases h
      exact heq ▸ List.mem_cons_self
    · exact List.mem_cons_of_mem _ (ih h)

/-- What stands there is what is found under the keys. -/
theorem Ordered.mem_iff {m : Keyed α} (h : m.Ordered) {key : String} {value : α} :
    (key, value) ∈ m.entries ↔ m.get? key = some value :=
  ⟨find_of_mem h, mem_of_find⟩

theorem Ordered.mem_keys_iff {m : Keyed α} (h : m.Ordered) {key : String} :
    key ∈ m.keys ↔ ∃ value, m.get? key = some value := by
  constructor
  · intro hkey
    obtain ⟨entry, hentry, rfl⟩ := List.mem_map.mp hkey
    exact ⟨entry.2, h.mem_iff.mp hentry⟩
  · rintro ⟨value, hvalue⟩
    exact List.mem_map.mpr ⟨(key, value), h.mem_iff.mpr hvalue, rfl⟩

end Keyed

end LogQuery
