import LogQuery.Log.Payload
import LogQuery.Proofs.Json.Balanced
import LogQuery.Proofs.Json.ReadBack
import LogQuery.Proofs.Keyed
import LogQuery.Proofs.Text.Substring

/-!
# Proofs.Json.Reworded — a word is replaced in the text of a value

The word `undefined` is replaced in the text of a value wherever it stands. No number and no other word holds it,
so that it can only stand in a key or in a text, and there it is replaced as if it had not been quoted.

* `strings`, `mapStrings`: the keys and texts of a value, and the value with all of them changed.
* `reworded_quoted`: the word is replaced inside quotes, and no escape is taken for a part of it.
* `reworded_tight`: the changed text is the text of the value with the word replaced in its keys and texts.
* `sorted_reworded_eq_iff`: the value stays as it is exactly if the word is in none of its keys and texts.
-/

namespace LogQuery.Json

/-! ## Keys and texts -/

/-- The text of a scalar that is one. -/
def scalarStrings : Json → List String
  | .text s => [s]
  | _ => []

/-- A scalar with `f` applied to its text. -/
def mapScalar (f : String → String) : Json → Json
  | .text s => .text (f s)
  | x => x

/-- The keys and the texts in a value. -/
def strings : Json → List String :=
  fold scalarStrings List.flatten fun members => members.flatMap fun m => m.1 :: m.2

/-- The value with `f` applied to its keys and texts. -/
def mapStrings (f : String → String) : Json → Json :=
  fold (mapScalar f) array fun members => object (members.map fun m => (f m.1, m.2))

theorem strings_scalar {x : Json} (hx : x.isScalar = true) : x.strings = scalarStrings x := fold_scalar _ _ _ hx

theorem strings_array (items : List Json) : (array items).strings = items.flatMap strings := by
  refine (fold_array _ _ _ items).trans ?_
  rw [List.flatMap_def]
  rfl

theorem strings_object (members : List (String × Json)) :
    (object members).strings = members.flatMap fun m => m.1 :: m.2.strings := by
  refine (fold_object _ _ _ members).trans ?_
  rw [List.flatMap_map]
  rfl

section

variable {f : String → String}

theorem mapStrings_scalar {x : Json} (hx : x.isScalar = true) : x.mapStrings f = mapScalar f x :=
  fold_scalar _ _ _ hx

theorem mapStrings_array (items : List Json) : (array items).mapStrings f = array (items.map (mapStrings f)) :=
  fold_array _ _ _ items

theorem mapStrings_object (members : List (String × Json)) :
    (object members).mapStrings f = object (members.map fun m => (f m.1, m.2.mapStrings f)) := by
  refine (fold_object _ _ _ members).trans ?_
  rw [List.map_map]
  rfl

theorem isScalar_mapScalar {x : Json} (hx : x.isScalar = true) : (mapScalar f x).isScalar = true := by
  cases x with
  | array | object => exact nomatch hx
  | null | boolean | integer | real | text => rfl

theorem strings_mapStrings (x : Json) : (x.mapStrings f).strings = x.strings.map f := by
  induction x using induct with
  | scalar x hx =>
    rw [mapStrings_scalar hx, strings_scalar hx, strings_scalar (isScalar_mapScalar hx)]
    cases x <;> rfl
  | array items ih =>
    rw [mapStrings_array, strings_array, strings_array, List.map_flatMap, List.flatMap_map]
    exact List.flatMap_congr ih
  | object members ih =>
    rw [mapStrings_object, strings_object, strings_object, List.map_flatMap, List.flatMap_map]
    refine List.flatMap_congr fun m hm => ?_
    rw [ih m hm, List.map_cons]

theorem mapStrings_eq_self {x : Json} (h : ∀ s ∈ x.strings, f s = s) : x.mapStrings f = x := by
  induction x using induct with
  | scalar x hx =>
    rw [strings_scalar hx] at h
    rw [mapStrings_scalar hx]
    cases x with
    | text s => rw [mapScalar, h s List.mem_cons_self]
    | array | object => exact nomatch hx
    | null | boolean | integer | real => rfl
  | array items ih =>
    rw [strings_array] at h
    rw [mapStrings_array, List.map_congr_left fun x hx => ih x hx fun s hs => h s (List.mem_flatMap_of_mem hx hs),
      List.map_id']
  | object members ih =>
    rw [strings_object] at h
    have hmember : ∀ m ∈ members, (f m.1, m.2.mapStrings f) = m := by
      intro m hm
      have hkey : f m.1 = m.1 := h m.1 (List.mem_flatMap_of_mem hm List.mem_cons_self)
      have hvalue : m.2.mapStrings f = m.2 :=
        ih m hm fun s hs => h s (List.mem_flatMap_of_mem hm (List.mem_cons_of_mem m.1 hs))
      rw [hkey, hvalue]
    rw [mapStrings_object, List.map_congr_left hmember, List.map_id']

theorem readable_mapStrings (hf : ∀ s, holdsNoSeparator s = true → holdsNoSeparator (f s) = true) {x : Json}
    (h : x.readable = true) : (x.mapStrings f).readable = true := by
  induction x using induct with
  | scalar x hx =>
    rw [readable_scalar hx] at h
    rw [mapStrings_scalar hx, readable_scalar (isScalar_mapScalar hx)]
    cases x with
    | text s => exact hf s h
    | array | object => exact nomatch hx
    | null | boolean | integer | real => exact h
  | array items ih =>
    rw [readable_array, List.all_eq_true] at h
    rw [mapStrings_array, readable_array, List.all_map, List.all_eq_true]
    exact fun x hx => ih x hx (h x hx)
  | object members ih =>
    rw [readable_object, List.all_eq_true] at h
    rw [mapStrings_object, readable_object, List.all_map, List.all_eq_true]
    intro m hm
    obtain ⟨hkey, hvalue⟩ := Bool.and_eq_true_iff.mp (h m hm)
    exact Bool.and_eq_true_iff.mpr ⟨hf m.1 hkey, ih m hm hvalue⟩

end

/-- Members may be left out of the ordered value, but no strings are added. -/
theorem mem_strings_of_sorted {x : Json} {s : String} (h : s ∈ x.sorted.strings) : s ∈ x.strings := by
  induction x using induct with
  | scalar x hx => rwa [sorted_scalar hx] at h
  | array items ih =>
    rw [sorted_array, strings_array, List.flatMap_map] at h
    obtain ⟨x, hx, hs⟩ := List.mem_flatMap.mp h
    rw [strings_array]
    exact List.mem_flatMap_of_mem hx (ih x hx hs)
  | object members ih =>
    rw [sorted_object, strings_object] at h
    obtain ⟨entry, hentry, hs⟩ := List.mem_flatMap.mp h
    obtain ⟨m, hm, rfl⟩ := List.mem_map.mp (Keyed.mem_ofList hentry)
    rw [strings_object]
    refine List.mem_flatMap_of_mem hm ?_
    rcases List.mem_cons.mp hs with rfl | hs
    · exact List.mem_cons_self
    · exact List.mem_cons_of_mem m.1 (ih m hm hs)

/-! ## The word -/

/-- The word that is replaced. -/
def word : List Char := ['u', 'n', 'd', 'e', 'f', 'i', 'n', 'e', 'd']

/-- What is written for it. -/
def newWord : List Char := ['n', 'u', 'l', 'l']

/-- The characters with the word replaced. -/
def reworded (cs : List Char) : List Char := Text.replaceFrom word newWord 0 cs

/-- The text with the word replaced. -/
def rewordedText (s : String) : String := Text.replaceAll "undefined" "null" s

theorem toList_rewordedText (s : String) : (rewordedText s).toList = reworded s.toList := String.toList_ofList

theorem word_ne : word ≠ [] := List.cons_ne_nil _ _

/-- The two words share their first letters with no end of the other. -/
theorem unmixed_word : Text.Unmixed word newWord := by
  constructor
  · intro cs u hu hne
    simp only [newWord, List.suffix_cons_iff, List.suffix_nil, hne, or_false] at hu
    rcases hu with rfl | rfl | rfl | rfl <;>
      simp [word]
  · intro u hu hne cs
    simp only [word, List.suffix_cons_iff, List.suffix_nil, hne, or_false] at hu
    rcases hu with rfl | rfl | rfl | rfl | rfl | rfl | rfl | rfl | rfl <;>
      simp [newWord]

theorem reworded_append_cons {c : Char} (hc : c ∉ word) (as bs : List Char) :
    reworded (as ++ c :: bs) = reworded as ++ c :: reworded bs :=
  Text.replaceFrom_append_cons word_ne hc as bs

theorem reworded_cons {c : Char} (hc : c ∉ word) (cs : List Char) : reworded (c :: cs) = c :: reworded cs :=
  reworded_append_cons hc [] cs

theorem reworded_concat {c : Char} (hc : c ∉ word) (cs : List Char) : reworded (cs ++ [c]) = reworded cs ++ [c] :=
  reworded_append_cons hc cs []

theorem reworded_commas (parts : List (List Char)) : reworded (commas parts) = commas (parts.map reworded) := by
  induction parts with
  | nil => rfl
  | cons p parts ih =>
    cases parts with
    | nil => simp [commas]
    | cons q parts =>
      rw [commas_cons_cons, reworded_append_cons (by decide), ih]
      exact (commas_cons_cons _ _ _).symm

/-- The word has letters that stand in no number and in no other word. -/
theorem reworded_of_bare {cs : List Char} (h : ∀ c ∈ cs, IsBare c) : reworded cs = cs := by
  refine Text.replaceFrom_eq_self fun hpart => ?_
  have hd : IsBare 'd' := h 'd' (hpart.subset (by decide))
  exact hd.ne rfl (by simp [bareMarks]) rfl

/-! ## Inside quotes -/

/-- No part of an escape is the start of the word. -/
theorem noneStarts_quotedChar {c : Char} (hc : quotedChar c ≠ [c]) (rest : List Char) :
    Text.NoneStarts word (quotedChar c) rest := by
  have hescaped := escaped_quotedChar c
  generalize quotedChar c = written at hescaped hc
  intro u hu hne hstarts
  cases hescaped with
  | plain => exact hc rfl
  | @short d h =>
    have hall : ∀ e ∈ shortEscapes, e.1 ≠ 'u' := by decide
    have hd : 'u' ≠ d := (hall (d, c) h).symm
    simp only [List.suffix_cons_iff, List.suffix_nil, hne, or_false] at hu
    rcases hu with rfl | rfl
    · simp [word] at hstarts
    · simp [word, hd] at hstarts
  | unit h =>
    have hdigit : ∀ n, 'u' ≠ Nat.digitChar n := fun n => (Nat.digitChar_ne 'u' (by decide)).symm
    simp only [List.suffix_cons_iff, List.suffix_nil, hne, or_false] at hu
    rcases hu with rfl | rfl | rfl | rfl | rfl | rfl <;>
      simp [word, hdigit] at hstarts

/-- What starts between the quotes and holds no backslash starts the text itself. -/
theorem prefix_of_prefix_quoted {u : List Char} (hu : '\\' ∉ u) {cs : List Char} (h : u <+: cs.flatMap quotedChar) :
    u <+: cs := by
  induction u generalizing cs with
  | nil => exact List.nil_prefix
  | cons d u ih =>
    obtain ⟨hd, hu⟩ := not_or.mp (List.mem_cons.not.mp hu)
    cases cs with
    | nil => exact h
    | cons c cs =>
      have hescaped := escaped_quotedChar c
      rw [List.flatMap_cons] at h
      generalize quotedChar c = written at hescaped h
      cases hescaped with
      | plain =>
        obtain ⟨rfl, hrest⟩ := List.cons_prefix_cons.mp h
        exact List.cons_prefix_cons.mpr ⟨rfl, ih hu hrest⟩
      | short => exact absurd (List.cons_prefix_cons.mp h).1.symm hd
      | unit => exact absurd (List.cons_prefix_cons.mp h).1.symm hd

theorem reworded_body (cs : List Char) : reworded (cs.flatMap quotedChar) = (reworded cs).flatMap quotedChar := by
  have hword : word.flatMap quotedChar = word := by decide
  have hnew : newWord.flatMap quotedChar = newWord := by decide
  unfold reworded
  induction cs using Text.replace_induction word_ne with
  | nil => rfl
  | found cs ih =>
    rw [List.flatMap_append, hword, Text.replaceFrom_found word_ne, ih, Text.replaceFrom_found word_ne,
      List.flatMap_append, hnew]
  | other c cs hc ih =>
    rw [List.flatMap_cons, Text.replaceFrom_other hc, List.flatMap_cons, ← ih]
    by_cases hplain : quotedChar c = [c]
    · have hnot : ¬ word <+: c :: cs.flatMap quotedChar := by
        intro h
        refine hc (prefix_of_prefix_quoted (by decide) ?_)
        rwa [List.flatMap_cons, hplain]
      rw [hplain]
      exact Text.replaceFrom_other hnot
    · exact Text.replaceFrom_of_noneStarts (noneStarts_quotedChar hplain _)

theorem reworded_quoted (s : String) : reworded (quoted s) = quoted (rewordedText s) := by
  rw [quoted, List.cons_append, reworded_cons (by decide), reworded_concat (by decide), reworded_body, quoted,
    toList_rewordedText]
  rfl

/-- **The word is replaced in the keys and the texts of a value**, and nowhere else. -/
theorem reworded_tight (x : Json) : reworded x.tight = (x.mapStrings rewordedText).tight := by
  induction x using induct with
  | scalar x hx =>
    rw [mapStrings_scalar hx]
    by_cases htext : ∃ s, x = .text s
    · obtain ⟨s, rfl⟩ := htext
      exact reworded_quoted s
    · have hmap : mapScalar rewordedText x = x := by
        cases x with
        | text s => exact absurd ⟨s, rfl⟩ htext
        | null | boolean | integer | real | array | object => rfl
      rw [hmap]
      exact reworded_of_bare (isBare_of_mem_scalar hx fun s h => htext ⟨s, h⟩)
  | array items ih =>
    rw [tight_array, mapStrings_array, tight_array, List.cons_append, reworded_cons (by decide),
      reworded_concat (by decide), reworded_commas, List.map_map, List.map_map]
    have hitems : items.map (reworded ∘ tight) = items.map (tight ∘ mapStrings rewordedText) :=
      List.map_congr_left ih
    rw [hitems]
    rfl
  | object members ih =>
    have hmembers : members.map (reworded ∘ tightMember) =
        members.map (tightMember ∘ fun m => (rewordedText m.1, m.2.mapStrings rewordedText)) := by
      refine List.map_congr_left fun m hm => ?_
      show reworded (tightMember m) = tightMember _
      rw [tightMember, reworded_append_cons (by decide), reworded_quoted, ih m hm]
      rfl
    rw [tight_object, mapStrings_object, tight_object, List.cons_append, reworded_cons (by decide),
      reworded_concat (by decide), reworded_commas, List.map_map, List.map_map, hmembers]
    rfl

/-! ## Values that come back unchanged -/

theorem contains_word_iff {s : String} : Text.contains s "undefined" = true ↔ word <:+: s.toList := Text.occursIn_iff

theorem rewordedText_eq_self {s : String} (h : Text.contains s "undefined" = false) : rewordedText s = s := by
  have hpart : ¬ word <:+: s.toList := contains_word_iff.not.mp (Bool.eq_false_iff.mp h)
  rw [← String.toList_inj, toList_rewordedText]
  exact Text.replaceFrom_eq_self hpart

theorem contains_rewordedText (s : String) : Text.contains (rewordedText s) "undefined" = false := by
  refine Bool.eq_false_iff.mpr (contains_word_iff.not.mpr ?_)
  rw [toList_rewordedText]
  exact Text.not_infix_replaceFrom word_ne unmixed_word s.toList

theorem holdsNoSeparator_rewordedText {s : String} (h : holdsNoSeparator s = true) :
    holdsNoSeparator (rewordedText s) = true := by
  rw [holdsNoSeparator, Bool.not_eq_true', List.any_eq_false] at h ⊢
  intro c hc
  rw [toList_rewordedText] at hc
  rcases Text.mem_replaceFrom word_ne hc with hc | hc
  · exact h c hc
  · simp only [newWord, List.mem_cons, List.not_mem_nil, or_false] at hc
    rcases hc with rfl | rfl | rfl | rfl <;>
      decide

/-- Whatever the order of the members is, no replaced word is ever put back. -/
theorem sorted_reworded_eq_iff {x : Json} (hx : x.sorted = x) :
    (x.mapStrings rewordedText).sorted = x ↔ ∀ s ∈ x.strings, Text.contains s "undefined" = false := by
  constructor
  · intro h s hs
    rw [← h] at hs
    have hs := mem_strings_of_sorted hs
    rw [strings_mapStrings] at hs
    obtain ⟨t, -, rfl⟩ := List.mem_map.mp hs
    exact contains_rewordedText t
  · intro h
    rw [mapStrings_eq_self fun s hs => rewordedText_eq_self (h s hs), hx]

end LogQuery.Json
