import LogQuery.Proofs.Keyed
import LogQuery.Search
import Mathlib

/-!
# Proofs.Search.Rows — the entries shown around those found

The windows around the entries found may overlap, touch or leave gaps, and they are cut at both ends of
the log. Their indices are collected in order, and the rows are read off in one pass that remembers the
index before.

* `mem_window`, `mem_shownIndices`: an index is shown if it is near enough to one found.
* `rowsFrom_afterGap`: the pass compares an index with the one before only, which is enough because the
  indices increase.
* `Around`, `rows_around`: what the rows show.
* `marked_rows`: the rows of the entries found are as many as those entries.
-/

namespace LogQuery.Search

/-! ## Indices -/

section

variable {total context index i : ℕ} {found : List ℕ}

/-- Where the sum stops is no matter, since an index never exceeds the largest one. -/
theorem mem_window (hsize : total ≤ maxIndex) (hindex : index < total) :
    i ∈ window total context index ↔ i < total ∧ index ≤ i + context ∧ i ≤ index + context := by
  rw [window, List.mem_range'_1]
  omega

theorem shownIndices_eq : shownIndices total context found = insertAll (found.flatMap (window total context)) [] :=
  List.foldl_flatMap.symm

theorem shownIndices_increasing : (shownIndices total context found).Pairwise (· < ·) := by
  rw [shownIndices_eq]
  exact pairwise_insertAll List.Pairwise.nil

theorem mem_shownIndices (hsize : total ≤ maxIndex) (hfound : ∀ m ∈ found, m < total) :
    i ∈ shownIndices total context found ↔
      i < total ∧ ∃ m ∈ found, m ≤ i + context ∧ i ≤ m + context := by
  rw [shownIndices_eq, mem_insertAll, or_iff_left List.not_mem_nil, List.mem_flatMap]
  constructor
  · rintro ⟨m, hm, hi⟩
    obtain ⟨htotal, hnear⟩ := (mem_window hsize (hfound m hm)).mp hi
    exact ⟨htotal, m, hm, hnear⟩
  · rintro ⟨htotal, m, hm, hnear⟩
    exact ⟨m, hm, (mem_window hsize (hfound m hm)).mpr ⟨htotal, hnear⟩⟩

end

/-! ## Rows -/

section

variable {found : List ℕ} {last : Option ℕ} {indices : List ℕ} {row : Row}

theorem map_index_rowsFrom : (rowsFrom found last indices).map Row.index = indices := by
  induction indices generalizing last with
  | nil => rfl
  | cons i rest ih => rw [rowsFrom, List.map_cons, ih]

theorem forall_mem_rowsFrom {P : ℕ → Prop} :
    (∀ row ∈ rowsFrom found last indices, P row.index) ↔ ∀ i ∈ indices, P i := by
  rw [← List.forall_mem_map (f := Row.index), map_index_rowsFrom]

theorem rowsFrom_found (h : row ∈ rowsFrom found last indices) : row.found = true ↔ row.index ∈ found := by
  induction indices generalizing last with
  | nil => exact absurd h List.not_mem_nil
  | cons i rest ih =>
    rcases List.mem_cons.mp h with rfl | h
    · exact List.contains_iff_mem
    · exact ih h

/-- A row comes after a gap if it is not the first one and the index right before it is not shown. -/
theorem rowsFrom_afterGap (hlast : ∀ before ∈ last, ∀ i ∈ indices, before < i)
    (hindices : indices.Pairwise (· < ·)) (h : row ∈ rowsFrom found last indices) :
    row.afterGap = true ↔ (last.isSome ∨ (rowsFrom found last indices).head? ≠ some row) ∧
      ∀ before ∈ last.toList ++ indices, before + 1 ≠ row.index := by
  induction indices generalizing last with
  | nil => exact absurd h List.not_mem_nil
  | cons i rest ih =>
    obtain ⟨hfirst, hrest⟩ := List.pairwise_cons.mp hindices
    rcases List.mem_cons.mp h with rfl | h
    · cases last with
      | none => simp [rowsFrom]
      | some b =>
        have hb : b < i := hlast b rfl i List.mem_cons_self
        have hlater : ∀ j ∈ rest, ¬ j + 1 = i := by
          intro j hj
          have := hfirst j hj
          omega
        have hgap : b + 1 < i ↔ ¬ b + 1 = i := by omega
        simpa using hgap.trans (and_iff_left hlater).symm
    · have hi : i < row.index := forall_mem_rowsFrom.mpr hfirst row h
      have hhead : (rowsFrom found last (i :: rest)).head? ≠ some row := by
        rintro heq
        obtain rfl := Option.some.inj heq
        exact lt_irrefl _ hi
      -- What was shown before `indices` lies below the first of them, and so not right before this row.
      have hbefore : ∀ b ∈ last.toList, b + 1 ≠ row.index := by
        intro b hb
        have := hlast b (Option.mem_toList.mp hb) i List.mem_cons_self
        omega
      have hsplit : (∀ b ∈ last.toList ++ i :: rest, b + 1 ≠ row.index) ↔ ∀ b ∈ i :: rest, b + 1 ≠ row.index :=
        List.forall_mem_append.trans (and_iff_right hbefore)
      rw [ih (fun b hb j hj => Option.some.inj hb ▸ hfirst j hj) hrest h, hsplit]
      exact and_congr (iff_of_true (.inl rfl) (.inr hhead)) Iff.rfl

end

/-- The rows show the indices at most `context` away from one that was found, in order and each once. They
mark those found, and tell where indices are left out between two rows. -/
structure Around (total context : ℕ) (found : List ℕ) (rows : List Row) : Prop where
  increasing : rows.Pairwise fun a b => a.index < b.index
  shown_iff : ∀ i, i ∈ rows.map Row.index ↔ i < total ∧ ∃ m ∈ found, m ≤ i + context ∧ i ≤ m + context
  found_iff : ∀ row ∈ rows, row.found = true ↔ row.index ∈ found
  afterGap_iff : ∀ row ∈ rows, row.afterGap = true ↔
    rows.head? ≠ some row ∧ ∀ before ∈ rows, before.index + 1 ≠ row.index

section

variable {total context : ℕ} {found : List ℕ}

/-- Nothing is around no index. -/
theorem rows_eq (hfound : ∀ m ∈ found, m < total) :
    rows total context found = rowsFrom found none (shownIndices total context found) := by
  unfold rows
  split_ifs with h
  · have hnil : found = [] := by
      rcases h with rfl | h
      · exact List.eq_nil_iff_forall_not_mem.mpr fun m hm => absurd (hfound m hm) (Nat.not_lt_zero m)
      · exact List.isEmpty_iff.mp h
    rw [hnil]
    rfl
  · rfl

theorem rows_around (hsize : total ≤ maxIndex) (hfound : ∀ m ∈ found, m < total) :
    Around total context found (rows total context found) := by
  have hincreasing : (shownIndices total context found).Pairwise (· < ·) := shownIndices_increasing
  rw [rows_eq hfound]
  refine ⟨?_, fun i => ?_, fun row hrow => rowsFrom_found hrow, fun row hrow => ?_⟩
  · rw [← List.pairwise_map, map_index_rowsFrom]
    exact hincreasing
  · rw [map_index_rowsFrom, mem_shownIndices hsize hfound]
  · have hbefore : (∀ before ∈ rowsFrom found none (shownIndices total context found),
        before.index + 1 ≠ row.index) ↔ ∀ b ∈ shownIndices total context found, b + 1 ≠ row.index :=
      forall_mem_rowsFrom (P := fun b => b + 1 ≠ row.index)
    rw [rowsFrom_afterGap (fun b hb => absurd hb (Option.not_mem_none b)) hincreasing hrow, hbefore]
    exact and_congr_left' (or_iff_right Bool.false_ne_true)

example : (rows 5 maxIndex [3]).map Row.index = [0, 1, 2, 3, 4] := by decide

/-- The marked rows are those of the indices found. -/
theorem Around.marked {shown : List Row} (h : Around total context found shown)
    (hfound : ∀ m ∈ found, m < total) (hincreasing : found.Pairwise (· < ·)) :
    (shown.filter Row.found).map Row.index = found := by
  have hpairwise : ((shown.filter Row.found).map Row.index).Pairwise (· < ·) :=
    List.pairwise_map.mpr (h.increasing.filter _)
  refine hpairwise.eq_of_mem_iff hincreasing fun {i} => ?_
  rw [List.mem_map]
  constructor
  · rintro ⟨row, hrow, rfl⟩
    obtain ⟨hmem, hmark⟩ := List.mem_filter.mp hrow
    exact (h.found_iff row hmem).mp hmark
  · intro hi
    obtain ⟨row, hmem, rfl⟩ := List.mem_map.mp ((h.shown_iff i).mpr ⟨hfound i hi, i, hi, by omega⟩)
    exact ⟨row, List.mem_filter.mpr ⟨hmem, (h.found_iff row hmem).mpr hi⟩, rfl⟩

end

end LogQuery.Search
