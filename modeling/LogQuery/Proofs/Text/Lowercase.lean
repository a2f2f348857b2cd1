import LogQuery.Text.Lowercase
import Mathlib

/-!
# Proofs.Text.Lowercase — parts of a text in lower case

The lower-case form of a text is put together from those of its characters. All of them have one form, but for
the capital sigma: at the end of a word it becomes `ς`, elsewhere `σ`. Where a word ends is seen from the
characters around the sigma, some of which may stand outside a given part of the text. So a part has the same
lower-case form in the text as by itself if each of its sigmas has.

* `lowerPart`: the lower-case form of a part, where it stands; `lowerFrom_append`.
* `lowerPart_eq_iff`: it is that of the part by itself if and only if the sigmas keep their forms.
* `SigmasKept`: they do, in the text around the part; then the part is found in lower case.
* `Open`, `SelfContained`: sigmas that depend on what is outside, and texts without them.
* `endsWord_of_not_open`, `endsWord_before`, `endsWord_after`: exactly the open sigmas may change.
* `infix_lowerChars_iff`: exactly the self-contained texts are found, in lower case, wherever they occur.
* `lowerFrom_of_ascii`, `length_le_lowerFrom`, `eq_underscore_of_lowerAt`: ASCII characters change by themselves, no
  text becomes shorter, and only an underscore becomes an underscore.
-/

namespace LogQuery.Text

/-! ## Parts of a text -/

/-- Whether a capital sigma between these characters ends a word. Those before it come nearest first. -/
def endsWord (before after : List Char) : Bool := meetsCased before && !meetsCased after

/-- The lower-case form of a character that stands between others. -/
def lowerAt (before : List Char) (c : Char) (after : List Char) : List Char :=
  if c = 'Σ' then [if endsWord before after then 'ς' else 'σ']
  else if c = 'İ' then ['i', '\u0307']
  else [lowerChar c]

/-- The lower-case form of a part of a text, where it stands between `before` (nearest first) and `after`. -/
def lowerPart (before : List Char) : List Char → List Char → List Char
  | [], _ => []
  | c :: cs, after => lowerAt before c (cs ++ after) ++ lowerPart (c :: before) cs after

theorem lowerFrom_cons (before : List Char) (c : Char) (cs : List Char) :
    lowerFrom before (c :: cs) = lowerAt before c cs ++ lowerFrom (c :: before) cs := rfl

/-- The lower-case form of a text is that of a part and of what comes after it. -/
theorem lowerFrom_append (before part after : List Char) :
    lowerFrom before (part ++ after) = lowerPart before part after ++ lowerFrom (part.reverse ++ before) after := by
  induction part generalizing before with
  | nil => rfl
  | cons c cs ih =>
    rw [List.cons_append, lowerFrom_cons, ih, lowerPart, List.append_assoc, List.reverse_cons, List.append_assoc]
    rfl

theorem lowerFrom_eq_lowerPart (before cs : List Char) : lowerFrom before cs = lowerPart before cs [] := by
  have h := lowerFrom_append before cs []
  rwa [List.append_nil, lowerFrom, List.append_nil] at h

theorem lowerAt_of_ne {c : Char} (hc : c ≠ 'Σ') (before after before' after' : List Char) :
    lowerAt before c after = lowerAt before' c after' := by
  simp only [lowerAt, if_neg hc]

theorem lowerAt_sigma_iff {before after before' after' : List Char} :
    lowerAt before 'Σ' after = lowerAt before' 'Σ' after' ↔ endsWord before after = endsWord before' after' := by
  simp only [lowerAt, if_true, List.cons.injEq, and_true]
  cases endsWord before after <;> cases endsWord before' after' <;> simp

/-- How long the form is does not depend on the other characters. -/
theorem length_lowerAt (before : List Char) (c : Char) (after before' after' : List Char) :
    (lowerAt before c after).length = (lowerAt before' c after').length := by
  unfold lowerAt
  split_ifs <;> rfl

theorem length_lowerPart (before part after before' after' : List Char) :
    (lowerPart before part after).length = (lowerPart before' part after').length := by
  induction part generalizing before before' with
  | nil => rfl
  | cons c cs ih =>
    rw [lowerPart, lowerPart, List.length_append, List.length_append, ih (c :: before) (c :: before'),
      length_lowerAt before c _ before']

/-- A part has one lower-case form in two places if and only if each capital sigma in it has. -/
theorem lowerPart_eq_iff {before part after before' after' : List Char} :
    lowerPart before part after = lowerPart before' part after' ↔ ∀ u v, part = u ++ 'Σ' :: v →
      endsWord (u.reverse ++ before) (v ++ after) = endsWord (u.reverse ++ before') (v ++ after') := by
  induction part generalizing before before' with
  | nil => simp [lowerPart]
  | cons c cs ih =>
    have hhead : lowerAt before c (cs ++ after) = lowerAt before' c (cs ++ after') ↔
        (c = 'Σ' → endsWord before (cs ++ after) = endsWord before' (cs ++ after')) := by
      by_cases hc : c = 'Σ'
      · subst hc
        simp [lowerAt_sigma_iff]
      · exact iff_of_true (lowerAt_of_ne hc _ _ _ _) fun h => absurd h hc
    have hlength := length_lowerAt before c (cs ++ after) before' (cs ++ after')
    rw [lowerPart, lowerPart, List.append_eq_append_iff_of_size_eq_left hlength, hhead, ih]
    constructor
    · rintro ⟨hfirst, hrest⟩ u v h
      cases u with
      | nil =>
        obtain ⟨rfl, rfl⟩ := List.cons.inj h
        exact hfirst rfl
      | cons d u =>
        obtain ⟨rfl, rfl⟩ := List.cons.inj h
        simpa using hrest u v rfl
    · intro h
      refine ⟨?_, fun u v huv => ?_⟩
      · rintro rfl
        exact h [] cs rfl
      · simpa using h (c :: u) v (by rw [huv, List.cons_append])

/-- Every capital sigma of a part has the form in the text that it has in the part by itself. -/
def SigmasKept (before part after : List Char) : Prop := ∀ u v, part = u ++ 'Σ' :: v →
  endsWord (u.reverse ++ before.reverse) (v ++ after) = endsWord u.reverse v

/-- Where its sigmas keep their forms, a part is found in lower case. -/
theorem SigmasKept.infix_lowerChars {before part after : List Char} (h : SigmasKept before part after) :
    lowerChars part <:+: lowerChars (before ++ part ++ after) := by
  have hpart : lowerPart before.reverse part after = lowerChars part := by
    rw [lowerChars, lowerFrom_eq_lowerPart, lowerPart_eq_iff]
    intro u v huv
    rw [List.append_nil, List.append_nil]
    exact h u v huv
  have htext : lowerChars (before ++ part ++ after) =
      lowerPart [] before (part ++ after) ++ lowerChars part ++ lowerFrom (part.reverse ++ before.reverse) after := by
    rw [lowerChars, List.append_assoc, lowerFrom_append, List.append_nil, lowerFrom_append, hpart, List.append_assoc]
  exact ⟨_, _, htext.symm⟩

/-! ## Sigmas that depend on what is outside -/

theorem meetsCased_of_all {cs : List Char} (h : cs.all isCaseIgnorable = true) (ds : List Char) :
    meetsCased (cs ++ ds) = meetsCased ds := by
  have hdrop : cs.dropWhile isCaseIgnorable = [] := List.dropWhile_eq_nil_iff.mpr (List.all_eq_true.mp h)
  rw [meetsCased, meetsCased, List.dropWhile_append, hdrop]
  rfl

theorem meetsCased_of_not_all {cs : List Char} (h : cs.all isCaseIgnorable = false) (ds : List Char) :
    meetsCased (cs ++ ds) = meetsCased cs := by
  obtain ⟨d, ds', hdrop⟩ : ∃ d ds', cs.dropWhile isCaseIgnorable = d :: ds' := by
    refine List.exists_cons_of_ne_nil fun hnil => ?_
    rw [List.all_eq_true.mpr (List.dropWhile_eq_nil_iff.mp hnil)] at h
    exact Bool.noConfusion h
  rw [meetsCased, meetsCased, List.dropWhile_append, hdrop]
  rfl

/-- Without a character that is not passed over, there is none with case. -/
theorem meetsCased_eq_false {cs : List Char} (h : cs.all isCaseIgnorable = true) : meetsCased cs = false := by
  rw [← List.append_nil cs, meetsCased_of_all h]
  rfl

/-- The form of a capital sigma between `u` and `v` depends on what stands around them: either there is nothing
before it and no cased character after it, or a cased character before it and nothing after it. Characters that
are passed over count for nothing. -/
def Open (u v : List Char) : Prop :=
  u.all isCaseIgnorable = true ∧ meetsCased v = false ∨ meetsCased u.reverse = true ∧ v.all isCaseIgnorable = true

/-- No capital sigma of the text depends on what stands around the text. -/
def SelfContained (cs : List Char) : Prop := ∀ u v, cs = u ++ 'Σ' :: v → ¬ Open u v

theorem selfContained_of_notMem {cs : List Char} (h : 'Σ' ∉ cs) : SelfContained cs := by
  rintro u v rfl
  simp at h

section

variable {u v : List Char}

theorem all_reverse_ignorable (u : List Char) : u.reverse.all isCaseIgnorable = u.all isCaseIgnorable :=
  List.all_reverse

/-- A sigma that is not open keeps its form wherever the text stands. -/
theorem endsWord_of_not_open (h : ¬ Open u v) (before after : List Char) :
    endsWord (u.reverse ++ before) (v ++ after) = endsWord u.reverse v := by
  unfold endsWord
  cases hu : u.all isCaseIgnorable with
  | true =>
    -- nothing is before the sigma, so there is a cased character after it
    have hcased : meetsCased v = true := by
      by_contra hnot
      exact h (.inl ⟨hu, by simpa using hnot⟩)
    have hv : v.all isCaseIgnorable = false := by
      by_contra hall
      rw [meetsCased_eq_false (by simpa using hall)] at hcased
      exact Bool.noConfusion hcased
    rw [meetsCased_of_not_all hv, hcased, Bool.not_true, Bool.and_false, Bool.and_false]
  | false =>
    rw [meetsCased_of_not_all ((all_reverse_ignorable u).trans hu)]
    cases hv : v.all isCaseIgnorable with
    | true =>
      have hnot : meetsCased u.reverse = false := by
        by_contra hcased
        exact h (.inr ⟨by simpa using hcased, hv⟩)
      rw [hnot, Bool.false_and, Bool.false_and]
    | false => rw [meetsCased_of_not_all hv]

/-- In every text, a self-contained part keeps its form. -/
theorem SelfContained.sigmasKept {part : List Char} (h : SelfContained part) (before after : List Char) :
    SigmasKept before part after := fun u v huv => endsWord_of_not_open (h u v huv) before.reverse after

theorem meetsCased_letter {d : Char} (hd : d = 'a' ∨ d = 'b') : meetsCased [d] = true := by
  rcases hd with rfl | rfl <;> decide +kernel

/-- With nothing before it and no cased character after it, a letter before the text changes the form. -/
theorem endsWord_before (hu : u.all isCaseIgnorable = true) (hv : meetsCased v = false) {d : Char}
    (hd : d = 'a' ∨ d = 'b') : endsWord (u.reverse ++ [d]) v ≠ endsWord u.reverse v := by
  have hreverse := (all_reverse_ignorable u).trans hu
  rw [endsWord, endsWord, meetsCased_of_all hreverse, meetsCased_letter hd, meetsCased_eq_false hreverse, hv]
  exact Bool.noConfusion

/-- With a cased character before it and nothing after it, a letter after the text changes the form. -/
theorem endsWord_after (hu : meetsCased u.reverse = true) (hv : v.all isCaseIgnorable = true) {d : Char}
    (hd : d = 'a' ∨ d = 'b') : endsWord u.reverse (v ++ [d]) ≠ endsWord u.reverse v := by
  rw [endsWord, endsWord, meetsCased_of_all hv, meetsCased_letter hd, meetsCased_eq_false hv, hu]
  exact Bool.noConfusion

end

/-! ## Occurrences in lower case -/

theorem lowerChars_letter_cons {d : Char} (hd : d = 'a' ∨ d = 'b') (cs : List Char) :
    lowerChars (d :: cs) = d :: lowerPart [d] cs [] := by
  rw [← lowerFrom_eq_lowerPart]
  rcases hd with rfl | rfl <;> rfl

theorem lowerChars_concat_letter {d : Char} (hd : d = 'a' ∨ d = 'b') (cs : List Char) :
    lowerChars (cs ++ [d]) = lowerPart [] cs [d] ++ [d] := by
  rw [lowerChars, lowerFrom_append]
  rcases hd with rfl | rfl <;> rfl

theorem exists_letter_ne (o : Option Char) : ∃ d, (d = 'a' ∨ d = 'b') ∧ o ≠ some d := by
  by_cases ho : o = some 'a'
  · exact ⟨'b', .inr rfl, by rw [ho]; decide⟩
  · exact ⟨'a', .inl rfl, ho⟩

/-- A list found in one that is longer by a first element, which is not its own, is the rest of it. -/
theorem eq_of_infix_cons {xs ys : List Char} {d : Char} (hlen : xs.length = ys.length) (hne : xs ≠ [])
    (hhead : xs.head? ≠ some d) (h : xs <:+: d :: ys) : xs = ys := by
  rcases List.infix_cons_iff.mp h with hprefix | hrest
  · cases xs with
    | nil => exact absurd rfl hne
    | cons x xs =>
      rw [List.cons_prefix_cons] at hprefix
      exact absurd (congrArg some hprefix.1) hhead
  · exact hrest.eq_of_length hlen

theorem eq_of_infix_concat {xs ys : List Char} {d : Char} (hlen : xs.length = ys.length) (hne : xs ≠ [])
    (hlast : xs.getLast? ≠ some d) (h : xs <:+: ys ++ [d]) : xs = ys := by
  have hreverse : xs.reverse = ys.reverse := by
    refine eq_of_infix_cons (d := d) (by simpa using hlen) (by simpa using hne) (by simpa using hlast) ?_
    simpa using List.reverse_infix.mpr h
  exact List.reverse_inj.mp hreverse

theorem lowerChars_ne_nil (u v : List Char) : lowerChars (u ++ 'Σ' :: v) ≠ [] := by
  rw [lowerChars, lowerFrom_append, lowerFrom_cons, lowerAt, if_pos rfl]
  simp

/-- In lower case a text is found wherever it occurs if and only if none of its sigmas depends on what stands
around it. -/
theorem infix_lowerChars_iff {part : List Char} :
    (∀ text, part <:+: text → lowerChars part <:+: lowerChars text) ↔ SelfContained part := by
  constructor
  · rintro hfound u v rfl hopen
    have hne := lowerChars_ne_nil u v
    have hself : lowerChars (u ++ 'Σ' :: v) = lowerPart [] (u ++ 'Σ' :: v) [] := lowerFrom_eq_lowerPart [] _
    rcases hopen with ⟨hu, hv⟩ | ⟨hu, hv⟩
    · -- a letter before the text that is not the first of its form makes the sigma end a word
      obtain ⟨d, hd, hhead⟩ := exists_letter_ne (lowerChars (u ++ 'Σ' :: v)).head?
      have hin := hfound (d :: (u ++ 'Σ' :: v)) (List.infix_cons List.infix_rfl)
      rw [lowerChars_letter_cons hd] at hin
      have hsame := eq_of_infix_cons (by rw [hself, length_lowerPart]) hne hhead hin
      rw [hself, eq_comm, lowerPart_eq_iff] at hsame
      exact endsWord_before hu hv hd (by simpa using hsame u v rfl)
    · -- a letter after the text that is not the last of its form makes the sigma end no word
      obtain ⟨d, hd, hlast⟩ := exists_letter_ne (lowerChars (u ++ 'Σ' :: v)).getLast?
      have hin := hfound ((u ++ 'Σ' :: v) ++ [d]) (List.prefix_append _ _).isInfix
      rw [lowerChars_concat_letter hd] at hin
      have hsame := eq_of_infix_concat (by rw [hself, length_lowerPart]) hne hlast hin
      rw [hself, eq_comm, lowerPart_eq_iff] at hsame
      exact endsWord_after hu hv hd (by simpa using hsame u v rfl)
  · rintro hself text ⟨before, after, rfl⟩
    exact (hself.sigmasKept before after).infix_lowerChars

/-! ## ASCII characters, length and underscores -/

theorem lowerAt_of_ascii (before : List Char) {c : Char} (h : c.toNat < 0x80) (after : List Char) :
    lowerAt before c after = [c.toLower] := by
  have hsigma : c ≠ 'Σ' := by
    rintro rfl
    exact absurd h (by decide)
  have hdotted : c ≠ 'İ' := by
    rintro rfl
    exact absurd h (by decide)
  rw [lowerAt, if_neg hsigma, if_neg hdotted, lowerChar, if_pos h]

/-- A text of ASCII characters is changed letter by letter. -/
theorem lowerFrom_of_ascii (before : List Char) {cs : List Char} (h : ∀ c ∈ cs, c.toNat < 0x80) :
    lowerFrom before cs = cs.map Char.toLower := by
  induction cs generalizing before with
  | nil => rfl
  | cons c cs ih =>
    obtain ⟨hc, hcs⟩ := List.forall_mem_cons.mp h
    rw [lowerFrom_cons, lowerAt_of_ascii before hc, ih _ hcs]
    rfl

theorem length_le_lowerFrom (before cs : List Char) : cs.length ≤ (lowerFrom before cs).length := by
  induction cs generalizing before with
  | nil => exact Nat.zero_le _
  | cons c cs ih =>
    have hhead : 1 ≤ (lowerAt before c cs).length := by
      unfold lowerAt
      split_ifs <;> simp
    rw [lowerFrom_cons, List.length_append, List.length_cons, Nat.add_comm]
    exact Nat.add_le_add hhead (ih _)

/-- No run of capital letters has its lower-case forms as far down as the underscore. -/
theorem underscore_lt_of_mem_runs :
    ∀ run ∈ allLowerRuns, (95 : ℤ) < (run.1 : ℤ) + run.2.2.2 := by
  decide +kernel

theorem lowerChar_eq_underscore {c : Char} (h : lowerChar c = '_') : c = '_' := by
  unfold lowerChar at h
  split_ifs at h with hascii
  · by_cases hupper : c.isUpper = true
    · -- the lower-case form of a letter is a letter
      have halpha : c.toLower.isAlpha = true := by simp [Char.isAlpha, hupper]
      rw [h] at halpha
      exact absurd halpha (by decide)
    · rwa [Char.toLower_eq_of_not_isUpper hupper] at h
  · split at h
    · rename_i first last step shift hfind
      have hrun := underscore_lt_of_mem_runs _ (List.mem_of_find?_eq_some hfind)
      have hrange := List.find?_some hfind
      simp only [Bool.and_eq_true, decide_eq_true_eq] at hrange
      have hvalue := congrArg Char.toNat h
      rw [Char.toNat_ofNat] at hvalue
      split_ifs at hvalue
      all_goals
        have hunderscore : '_'.toNat = 95 := rfl
        dsimp only at hrun
        omega
    · exact h

/-- Only the form of an underscore begins with an underscore. -/
theorem eq_underscore_of_lowerAt {before after rest rest' : List Char} {c : Char}
    (h : lowerAt before c after ++ rest = '_' :: rest') : c = '_' := by
  unfold lowerAt at h
  split_ifs at h
  all_goals have hhead := (List.cons.inj h).1
  · exact absurd hhead (by decide)
  · exact absurd hhead (by decide)
  · exact absurd hhead (by decide)
  · exact lowerChar_eq_underscore hhead

end LogQuery.Text
