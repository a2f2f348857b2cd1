import LogQuery.Text.Substring
import Mathlib.Tactic

/-!
# Proofs.Text.Substring — where texts are cut

* `cutAt?_append`, `cutAt?_char`: a text is cut at a separator in front of which one of its characters is missing.
* `cutAt?_eq_none`: a text without such a character is not cut; `cutAt?_first`: it is cut at the first separator.
* `mem_replaceFrom`, `count_replaceFrom`: the characters of a text in which another one is replaced.
-/

namespace LogQuery.Text

section

variable {x : Char} {sep front before after rest cs : List Char}

theorem cutAt?_eq_none (hx : x ∈ sep) (hcs : x ∉ cs) : cutAt? sep cs = none := by
  cases h : cutAt? sep cs with
  | none => rfl
  | some parts =>
    obtain ⟨before, after⟩ := parts
    have hsplit : cs = before ++ sep ++ after := cutAt?_eq_some h
    refine absurd ?_ hcs
    rw [hsplit]
    simp [hx]

/-- An occurrence before the separator would hold the character `x` too early. -/
theorem cutAt?_append (hfront : x ∉ front) (hbefore : x ∉ before) :
    cutAt? (before ++ x :: after) (front ++ (before ++ x :: after) ++ rest) = some (front, rest) := by
  induction front with
  | nil =>
    have hstarts : (before ++ x :: after).isPrefixOf (before ++ x :: after ++ rest) = true :=
      List.isPrefixOf_iff_prefix.mpr (List.prefix_append _ _)
    obtain ⟨c, cs, hcs⟩ : ∃ c cs, before ++ x :: after ++ rest = c :: cs := by
      refine List.exists_cons_of_ne_nil ?_
      simp
    rw [List.nil_append, hcs, cutAt?, ← hcs, if_pos hstarts, List.drop_left]
  | cons c front ih =>
    obtain ⟨hc, hfront⟩ := not_or.mp (List.mem_cons.not.mp hfront)
    have hlate : ¬ (before ++ x :: after).isPrefixOf
        (c :: (front ++ (before ++ x :: after) ++ rest)) = true := by
      intro h
      have hearly : before ++ [x] <+: c :: (front ++ (before ++ x :: after) ++ rest) := by
        refine List.IsPrefix.trans ?_ (List.isPrefixOf_iff_prefix.mp h)
        exact ⟨after, by simp⟩
      have hclear : c :: (front ++ before) <+: c :: (front ++ (before ++ x :: after) ++ rest) :=
        ⟨x :: after ++ rest, by simp⟩
      have hshort : before ++ [x] <+: c :: (front ++ before) :=
        List.prefix_of_prefix_length_le hearly hclear (by simp)
      have hmem : x ∈ c :: (front ++ before) := hshort.subset (by simp)
      simp [hc, hfront, hbefore] at hmem
    rw [List.cons_append, List.cons_append, cutAt?, if_neg hlate, ih hfront]
    rfl

theorem cutAt?_char (hfront : x ∉ front) (rest : List Char) :
    cutAt? [x] (front ++ x :: rest) = some (front, rest) := by
  have hcut : cutAt? ([] ++ x :: []) (front ++ ([] ++ x :: []) ++ rest) = some (front, rest) :=
    cutAt?_append hfront List.not_mem_nil
  simpa using hcut

/-- The cut is at the first separator, and so not behind any other one. -/
theorem cutAt?_first (sep before after : List Char) :
    ∃ front more, cutAt? sep (before ++ sep ++ after) = some (front, more ++ after) ∧
      before ++ sep = front ++ sep ++ more := by
  induction before with
  | nil =>
    refine ⟨[], [], ?_, by simp⟩
    cases hsep : sep ++ after with
    | nil =>
      obtain ⟨rfl, rfl⟩ := List.append_eq_nil_iff.mp hsep
      rfl
    | cons c cs =>
      have hstarts : sep.isPrefixOf (c :: cs) = true := List.isPrefixOf_iff_prefix.mpr ⟨after, hsep⟩
      rw [List.nil_append, hsep, cutAt?, if_pos hstarts, ← hsep, List.drop_left, List.nil_append]
  | cons c before ih =>
    rw [List.cons_append, List.cons_append, cutAt?]
    split_ifs with hstarts
    · have hprefix : sep <+: c :: (before ++ sep) := by
        have hlong : c :: (before ++ sep) <+: c :: (before ++ sep ++ after) := ⟨after, by simp⟩
        exact List.prefix_of_prefix_length_le (List.isPrefixOf_iff_prefix.mp hstarts) hlong (by
          rw [List.length_cons, List.length_append]
          omega)
      obtain ⟨more, hmore⟩ := hprefix
      refine ⟨[], more, ?_, hmore.symm⟩
      have hsplit : c :: (before ++ sep ++ after) = sep ++ (more ++ after) := by
        rw [← List.append_assoc, hmore, List.cons_append]
      rw [hsplit, List.drop_left]
    · obtain ⟨front, more, hcut, heq⟩ := ih
      exact ⟨c :: front, more, by rw [hcut]; rfl, by rw [heq]; rfl⟩

/-- What is missing up to a separator is missing on both sides of the first one. -/
theorem notMem_of_cutAt? (hcut : cutAt? sep cs = some (front, rest)) (hcs : cs = before ++ sep ++ after)
    (hx : x ∉ before ++ sep) : x ∉ front ∧ ∃ more, rest = more ++ after ∧ x ∉ more := by
  obtain ⟨front', more, hcut', heq⟩ := cutAt?_first sep before after
  rw [← hcs, hcut, Option.some.injEq, Prod.mk.injEq] at hcut'
  obtain ⟨rfl, rfl⟩ := hcut'
  rw [heq, List.append_assoc, List.mem_append, List.mem_append] at hx
  obtain ⟨hfront, hrest⟩ := not_or.mp hx
  exact ⟨hfront, more, rfl, (not_or.mp hrest).2⟩

end

/-! ## Replacing -/

section Replace

variable {old new : List Char}

theorem replaceFrom_drop (covered : ℕ) (cs : List Char) :
    replaceFrom old new covered cs = replaceFrom old new 0 (cs.drop covered) := by
  induction covered generalizing cs with
  | zero => rw [List.drop_zero]
  | succ covered ih =>
    cases cs with
    | nil => rfl
    | cons c cs => rw [replaceFrom, ih, List.drop_succ_cons]

theorem replaceFrom_found (hold : old ≠ []) (cs : List Char) :
    replaceFrom old new 0 (old ++ cs) = new ++ replaceFrom old new 0 cs := by
  obtain ⟨o, os, rfl⟩ := List.exists_cons_of_ne_nil hold
  have hstarts : (o :: os).isPrefixOf (o :: (os ++ cs)) = true :=
    List.isPrefixOf_iff_prefix.mpr ⟨cs, rfl⟩
  rw [List.cons_append, replaceFrom, if_pos hstarts, replaceFrom_drop]
  simp

theorem replaceFrom_other {c : Char} {cs : List Char} (h : ¬ old <+: c :: cs) :
    replaceFrom old new 0 (c :: cs) = c :: replaceFrom old new 0 cs := by
  rw [replaceFrom, if_neg (mt List.isPrefixOf_iff_prefix.mp h)]

/-- A text is empty, or starts with an occurrence, or starts with a character that starts none. -/
@[elab_as_elim]
theorem replace_induction (hold : old ≠ []) {P : List Char → Prop} (nil : P []) (found : ∀ cs, P cs → P (old ++ cs))
    (other : ∀ c cs, ¬ old <+: c :: cs → P cs → P (c :: cs)) (cs : List Char) : P cs := by
  induction hn : cs.length using Nat.strong_induction_on generalizing cs with
  | _ n ih =>
    subst hn
    cases cs with
    | nil => exact nil
    | cons c cs =>
      by_cases h : old <+: c :: cs
      · obtain ⟨rest, hrest⟩ := h
        have hlength : rest.length < (c :: cs).length := by
          have hpos := List.length_pos_iff.mpr hold
          rw [← hrest, List.length_append]
          omega
        rw [← hrest]
        exact found rest (ih _ hlength rest rfl)
      · exact other c cs h (ih _ (Nat.lt_succ_self _) cs rfl)

theorem replaceFrom_eq_self {cs : List Char} (h : ¬ old <:+: cs) : replaceFrom old new 0 cs = cs := by
  induction cs with
  | nil => rfl
  | cons c cs ih =>
    obtain ⟨hstarts, hpart⟩ := not_or.mp (List.infix_cons_iff.not.mp h)
    rw [replaceFrom_other hstarts, ih hpart]

theorem mem_replaceFrom (hold : old ≠ []) {c : Char} {cs : List Char} (h : c ∈ replaceFrom old new 0 cs) :
    c ∈ cs ∨ c ∈ new := by
  induction cs using replace_induction hold with
  | nil => exact nomatch h
  | found cs ih =>
    rw [replaceFrom_found hold] at h
    rcases List.mem_append.mp h with h | h
    · exact .inr h
    · exact (ih h).imp_left (List.mem_append_right old)
  | other d cs hd ih =>
    rw [replaceFrom_other hd] at h
    rcases List.mem_cons.mp h with rfl | h
    · exact .inl List.mem_cons_self
    · exact (ih h).imp_left (List.mem_cons_of_mem d)

theorem notMem_replaceFrom_singleton {c : Char} (hnew : c ∉ new) (cs : List Char) : c ∉ replaceFrom [c] new 0 cs := by
  induction cs using replace_induction (List.cons_ne_nil c []) with
  | nil => exact List.not_mem_nil
  | found cs ih =>
    rw [replaceFrom_found (List.cons_ne_nil c []), List.mem_append]
    exact not_or.mpr ⟨hnew, ih⟩
  | other d cs hd ih =>
    rw [replaceFrom_other hd, List.mem_cons]
    refine not_or.mpr ⟨?_, ih⟩
    rintro rfl
    exact hd ⟨cs, rfl⟩

/-- Replacing keeps the number of a character that occurs in neither text. -/
theorem count_replaceFrom (hold : old ≠ []) {c : Char} (hc : c ∉ old) (hnew : c ∉ new) (cs : List Char) :
    (replaceFrom old new 0 cs).count c = cs.count c := by
  induction cs using replace_induction hold with
  | nil => rfl
  | found cs ih =>
    rw [replaceFrom_found hold, List.count_append, List.count_append, ih, List.count_eq_zero_of_not_mem hnew,
      List.count_eq_zero_of_not_mem hc]
  | other d cs hd ih => rw [replaceFrom_other hd, List.count_cons, List.count_cons, ih]

/-- What lacks the character `c` and stands before it stands in front of it. -/
theorem prefix_of_prefix_append_cons {c : Char} (hc : c ∉ old) (as : List Char) {bs : List Char}
    (h : old <+: as ++ c :: bs) : old <+: as := by
  rcases Nat.lt_or_ge as.length old.length with hlt | hle
  · have hshort : as ++ [c] <+: old := by
      have hlong : as ++ [c] <+: as ++ c :: bs := ⟨bs, by simp⟩
      exact List.prefix_of_prefix_length_le hlong h (by simpa using hlt)
    exact absurd (hshort.subset (by simp)) hc
  · exact List.prefix_of_prefix_length_le h (List.prefix_append as _) hle

/-- A character that is not in the replaced text parts the rest. -/
theorem replaceFrom_append_cons (hold : old ≠ []) {c : Char} (hc : c ∉ old) (as bs : List Char) :
    replaceFrom old new 0 (as ++ c :: bs) = replaceFrom old new 0 as ++ c :: replaceFrom old new 0 bs := by
  induction as using replace_induction hold with
  | nil =>
    refine replaceFrom_other fun h => hold ?_
    exact List.prefix_nil.mp (prefix_of_prefix_append_cons hc [] h)
  | found as ih => rw [List.append_assoc, replaceFrom_found hold, ih, replaceFrom_found hold, List.append_assoc]
  | other d as hd ih =>
    have hd' : ¬ old <+: d :: (as ++ c :: bs) :=
      fun h => hd (prefix_of_prefix_append_cons hc (d :: as) h)
    rw [List.cons_append, replaceFrom_other hd', ih, replaceFrom_other hd, List.cons_append]

/-- No occurrence of `old` in `as ++ bs` starts in `as`. -/
def NoneStarts (old as bs : List Char) : Prop := ∀ u, u <:+ as → u ≠ [] → ¬ old <+: u ++ bs

theorem NoneStarts.tail {c : Char} {as bs : List Char} (h : NoneStarts old (c :: as) bs) : NoneStarts old as bs :=
  fun u hu => h u (hu.trans (List.suffix_cons c as))

theorem NoneStarts.head {c : Char} {as bs : List Char} (h : NoneStarts old (c :: as) bs) :
    ¬ old <+: c :: (as ++ bs) :=
  h (c :: as) (List.suffix_refl _) (List.cons_ne_nil c as)

theorem replaceFrom_of_noneStarts {as bs : List Char} (h : NoneStarts old as bs) :
    replaceFrom old new 0 (as ++ bs) = as ++ replaceFrom old new 0 bs := by
  induction as with
  | nil => rfl
  | cons c as ih => rw [List.cons_append, replaceFrom_other h.head, ih h.tail, List.cons_append]

theorem not_infix_of_noneStarts {as bs : List Char} (h : NoneStarts old as bs) (hbs : ¬ old <:+: bs) :
    ¬ old <:+: as ++ bs := by
  induction as with
  | nil => exact hbs
  | cons c as ih =>
    rw [List.cons_append, List.infix_cons_iff]
    exact not_or.mpr ⟨h.head, ih h.tail⟩

/-- No occurrence of `old` starts in a copy of `new`, and none that starts before a copy reaches into it. -/
structure Unmixed (old new : List Char) : Prop where
  starts : ∀ cs, NoneStarts old new cs
  reaches : ∀ u, u <:+ old → u ≠ [] → ∀ cs, ¬ u <+: new ++ cs

theorem prefix_of_prefix_replaceFrom (hold : old ≠ []) (hmix : Unmixed old new) {u : List Char} (hu : u <:+ old)
    {cs : List Char} (h : u <+: replaceFrom old new 0 cs) : u <+: cs := by
  induction cs using replace_induction hold generalizing u with
  | nil => exact h
  | found cs _ =>
    rw [replaceFrom_found hold] at h
    by_cases hne : u = []
    · exact hne ▸ List.nil_prefix
    · exact absurd h (hmix.reaches u hu hne _)
  | other c cs hc ih =>
    rw [replaceFrom_other hc] at h
    cases u with
    | nil => exact List.nil_prefix
    | cons d u =>
      obtain ⟨rfl, hrest⟩ := List.cons_prefix_cons.mp h
      exact List.cons_prefix_cons.mpr ⟨rfl, ih ((List.suffix_cons d u).trans hu) hrest⟩

/-- Nothing is left to replace. -/
theorem not_infix_replaceFrom (hold : old ≠ []) (hmix : Unmixed old new) (cs : List Char) :
    ¬ old <:+: replaceFrom old new 0 cs := by
  induction cs using replace_induction hold with
  | nil => exact fun h => hold (List.infix_nil.mp h)
  | found cs ih =>
    rw [replaceFrom_found hold]
    exact not_infix_of_noneStarts (hmix.starts _) ih
  | other c cs hc ih =>
    rw [replaceFrom_other hc, List.infix_cons_iff]
    refine not_or.mpr ⟨fun h => hc ?_, ih⟩
    rw [← replaceFrom_other hc] at h
    exact prefix_of_prefix_replaceFrom hold hmix (List.suffix_refl old) h

end Replace

end LogQuery.Text
