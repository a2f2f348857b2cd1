import LogQuery.Instant.Rfc3339
import Mathlib.Tactic

/-!
# Proofs.Instant.ReadBack — the canonical text of an instant reads back

The years `0` to `9999` have four digits and no sign, so that RFC 3339 can be read again.

* `fixedDigits?_padded`, `fraction?_exact`: the parts of the text, each in front of any rest.
* `ofCivil?_parts`: an instant is made of its own parts; the second `60` gives the leap second back.
* `ofText?_canonical`: the canonical text is read as the instant; `ofText?_canonical_of_signed`: in other
  years it is not read at all.
-/

namespace LogQuery

theorem Text.isBlank_of_isDigit {c : Char} (hc : c.isDigit = true) : Text.isBlank c = false := by
  simp only [Char.isDigit, Bool.and_eq_true, decide_eq_true_eq, UInt32.le_iff_toNat_le] at hc
  have h1 : 48 ≤ c.toNat := hc.1
  have h2 : c.toNat ≤ 57 := hc.2
  simp only [Text.isBlank, Bool.or_eq_false_iff, Bool.and_eq_false_iff, decide_eq_false_iff_not,
    beq_eq_false_iff_ne]
  omega

/-- A text without white space is not trimmed. -/
theorem Text.trimChars_eq_self {cs : List Char} (h : ∀ c ∈ cs, Text.isBlank c = false) :
    Text.trimChars cs = cs := by
  have hdrop : ∀ ds : List Char, (∀ c ∈ ds, Text.isBlank c = false) → ds.dropWhile Text.isBlank = ds := by
    intro ds hds
    cases ds with
    | nil => rfl
    | cons d ds => exact List.dropWhile_cons_of_neg (by simp [hds d List.mem_cons_self])
  rw [Text.trimChars, Text.trimStart, hdrop cs h, Text.trimEnd,
    hdrop _ fun c hc => h c (List.mem_reverse.mp hc), List.reverse_reverse]

namespace Instant

/-! ## Digits of a fixed number -/

theorem digit?_of_isDigit {c : Char} (hc : c.isDigit = true) :
    digit? c = some (c.toNat - '0'.toNat) := if_pos hc

theorem fixedDigits?_append {ds : List Char} (hds : ∀ c ∈ ds, c.isDigit = true) (value : ℕ)
    (rest : List Char) :
    fixedDigits? ds.length value (ds ++ rest) = some (Nat.ofDigitChars 10 ds value, rest) := by
  induction ds generalizing value with
  | nil => rfl
  | cons d ds ih =>
    have hd : digit? d = some (d.toNat - '0'.toNat) := digit?_of_isDigit (hds d List.mem_cons_self)
    rw [List.cons_append, List.length_cons, fixedDigits?, hd, Option.bind_some,
      ih (fun c hc => hds c (List.mem_cons_of_mem d hc)), Nat.ofDigitChars_cons]

theorem isDigit_of_mem_padded {width n : ℕ} {c : Char} (h : c ∈ padded width n) :
    c.isDigit = true := by
  rcases List.mem_append.mp h with h | h
  · rw [List.eq_of_mem_replicate h]; rfl
  · exact Nat.isDigit_of_mem_toDigits (by decide) (by decide) h

theorem length_padded {width n : ℕ} (hw : 0 < width) (h : n < 10 ^ width) :
    (padded width n).length = width := by
  have hlen : (Nat.toDigits 10 n).length ≤ width := (Nat.length_toDigits_le_iff (by decide) hw).mpr h
  rw [padded, List.length_append, List.length_replicate]
  omega

theorem ofDigitChars_padded (width n : ℕ) : Nat.ofDigitChars 10 (padded width n) 0 = n := by
  rw [padded, Nat.ofDigitChars_append, Nat.ofDigitChars_replicate_zero, Nat.mul_zero,
    Nat.ofDigitChars_ten_toDigits]

theorem fixedDigits?_padded {width n : ℕ} (hw : 0 < width) (h : n < 10 ^ width) (rest : List Char) :
    fixedDigits? width 0 (padded width n ++ rest) = some (n, rest) := by
  have hds : ∀ c ∈ padded width n, c.isDigit = true := fun c => isDigit_of_mem_padded
  have := fixedDigits?_append hds 0 rest
  rwa [length_padded hw h, ofDigitChars_padded] at this

/-! ## The fraction of a second -/

theorem nanoDigits_append {ds : List Char} (hds : ∀ c ∈ ds, c.isDigit = true) {rest : List Char}
    (hrest : ∀ c ∈ rest.head?, c.isDigit = false) {places : ℕ} (hlen : ds.length ≤ places) (value : ℕ) :
    nanoDigits places value (ds ++ rest) =
      (Nat.ofDigitChars 10 ds value * 10 ^ (places - ds.length), rest) := by
  induction ds generalizing places value with
  | nil =>
    cases rest with
    | nil => rfl
    | cons c cs =>
      have hc : digit? c = none := if_neg (by rw [hrest c rfl]; decide)
      simp [nanoDigits, hc]
  | cons d ds ih =>
    obtain ⟨places, rfl⟩ : ∃ k, places = k + 1 := ⟨places - 1, by rw [List.length_cons] at hlen; omega⟩
    have hd : digit? d = some (d.toNat - '0'.toNat) := digit?_of_isDigit (hds d List.mem_cons_self)
    simp only [List.cons_append, nanoDigits, hd]
    rw [ih (fun c hc => hds c (List.mem_cons_of_mem d hc)) (Nat.le_of_succ_le_succ hlen),
      Nat.ofDigitChars_cons, List.length_cons, Nat.add_sub_add_right]

theorem fraction?_padded {width n : ℕ} (hw : 0 < width) (hle : width ≤ 9) (h : n < 10 ^ width)
    {rest : List Char} (hrest : ∀ c ∈ rest.head?, c.isDigit = false) :
    fraction? ('.' :: padded width n ++ rest) = some (n * 10 ^ (9 - width), rest) := by
  have hlen := length_padded hw h
  have hne : padded width n ≠ [] := by rw [← List.length_pos_iff, hlen]; exact hw
  obtain ⟨c, cs, hcs⟩ := List.exists_cons_of_ne_nil hne
  have hc : c.isDigit = true := isDigit_of_mem_padded (hcs ▸ List.mem_cons_self)
  have hds : ∀ c ∈ padded width n, c.isDigit = true := fun c => isDigit_of_mem_padded
  have hnano := nanoDigits_append hds hrest (hlen.le.trans hle) 0
  rw [hlen, ofDigitChars_padded] at hnano
  rw [hcs, List.cons_append] at *
  rw [List.cons_append, fraction?, if_pos hc, hnano]

theorem fraction?_exact {nano : ℕ} (h : nano < 1000000000) :
    fraction? (exactFraction nano ++ ['Z']) = some (nano, ['Z']) := by
  have hz : ∀ c ∈ ['Z'].head?, c.isDigit = false := by
    intro c hc
    obtain rfl : 'Z' = c := by simpa using hc
    rfl
  unfold exactFraction
  split_ifs with h0 h3 h6
  · rw [h0]; rfl
  · have hvalue : nano / 1000000 * 10 ^ (9 - 3) = nano :=
      Nat.div_mul_cancel (Nat.dvd_of_mod_eq_zero h3)
    have hlt : nano / 1000000 < 10 ^ 3 := by omega
    rw [fraction?_padded (by decide) (by decide) hlt hz, hvalue]
  · have hvalue : nano / 1000 * 10 ^ (9 - 6) = nano :=
      Nat.div_mul_cancel (Nat.dvd_of_mod_eq_zero h6)
    have hlt : nano / 1000 < 10 ^ 6 := by omega
    rw [fraction?_padded (by decide) (by decide) hlt hz, hvalue]
  · have hlt : nano < 10 ^ 9 := by omega
    rw [fraction?_padded (by decide) (by decide) hlt hz, Nat.sub_self, pow_zero, Nat.mul_one]

/-! ## The parts of an instant -/

theorem of?_date (d : Date) : Date.of? d.year d.month d.day = some d := dif_pos d.valid

theorem of?_self (i : Instant) : of? i.date i.second i.nano = some i := dif_pos i.valid

/-- An instant is made of its date and its time of day. -/
theorem ofCivil?_parts (i : Instant) :
    ofCivil? i.date.year i.date.month i.date.day (i.second / 3600) (i.second / 60 % 60)
      (i.second % 60 + i.nano / 1000000000) (i.nano % 1000000000) 0 = some i := by
  obtain ⟨hs, hn, hleap⟩ := i.valid
  have htime : i.second / 3600 < 24 ∧ i.second / 60 % 60 < 60 ∧
      i.second % 60 + i.nano / 1000000000 ≤ 60 ∧ i.nano % 1000000000 < 1000000000 := by omega
  have hoffset : (-1440 : ℤ) < 0 ∧ (0 : ℤ) < 1440 := by decide
  -- the second sixty is exactly the leap second
  have hsecond : (if i.second % 60 + i.nano / 1000000000 = 60 then
      (59, i.nano % 1000000000 + 1000000000)
      else (i.second % 60 + i.nano / 1000000000, i.nano % 1000000000)) = (i.second % 60, i.nano) := by
    split_ifs <;> rw [Prod.mk.injEq] <;> omega
  have hutc : ((i.second / 3600 * 3600 + i.second / 60 % 60 * 60 + i.second % 60 : ℕ) : ℤ) - 0 * 60 =
      (i.second : ℤ) := by omega
  have hday : (i.second : ℤ) / 86400 = 0 := by omega
  have hrest : ((i.second : ℤ) % 86400).toNat = i.second := by omega
  simp only [ofCivil?, of?_date, Option.bind_eq_bind, Option.bind_some, guard, if_pos htime,
    if_pos hoffset, hsecond]
  show ((Date.move? i.date _).bind fun date => of? date _ i.nano) = some i
  rw [hutc, hday, hrest]
  exact of?_self i

/-! ## The canonical text -/

/-- A mark in front of digits. -/
theorem digit_or_mark_of_mem_cons {mark c : Char} {width n : ℕ} (hmark : mark ∈ ['-', '+', 'T', ':', '.', 'Z'])
    (hc : c ∈ mark :: padded width n) : c.isDigit = true ∨ c ∈ ['-', '+', 'T', ':', '.', 'Z'] := by
  rcases List.mem_cons.mp hc with rfl | hc
  exacts [.inr hmark, .inl (isDigit_of_mem_padded hc)]

theorem digit_or_mark_of_mem_exactFraction {n : ℕ} {c : Char} (hc : c ∈ exactFraction n) :
    c.isDigit = true ∨ c ∈ ['-', '+', 'T', ':', '.', 'Z'] := by
  unfold exactFraction at hc
  split_ifs at hc
  · exact absurd hc List.not_mem_nil
  all_goals exact digit_or_mark_of_mem_cons (by decide) hc

/-- The text is made of digits and marks if the fraction is. -/
theorem digit_or_mark_of_mem_chars {fraction : ℕ → List Char}
    (hfraction : ∀ {n : ℕ} {c : Char}, c ∈ fraction n → c.isDigit = true ∨ c ∈ ['-', '+', 'T', ':', '.', 'Z'])
    {i : Instant} {c : Char} (hc : c ∈ chars fraction i) :
    c.isDigit = true ∨ c ∈ ['-', '+', 'T', ':', '.', 'Z'] := by
  have hyear : ∀ {c : Char}, c ∈ yearChars i.date.year →
      c.isDigit = true ∨ c ∈ ['-', '+', 'T', ':', '.', 'Z'] := by
    intro c hc
    unfold yearChars at hc
    split_ifs at hc
    · exact .inl (isDigit_of_mem_padded hc)
    all_goals exact digit_or_mark_of_mem_cons (by decide) hc
  simp only [chars, List.cons_append, List.append_assoc] at hc
  simp only [← List.cons_append, List.mem_append] at hc
  rcases hc with hc | hc | hc | hc | hc | hc | hc | hc
  · exact hyear hc
  all_goals first | exact digit_or_mark_of_mem_cons (by decide) hc | exact hfraction hc | skip
  rw [List.mem_singleton.mp hc]
  exact .inr (by decide)

theorem isBlank_of_mem_chars {i : Instant} {c : Char} (hc : c ∈ chars exactFraction i) :
    Text.isBlank c = false := by
  rcases digit_or_mark_of_mem_chars digit_or_mark_of_mem_exactFraction hc with h | h
  · exact Text.isBlank_of_isDigit h
  · have hmarks : (['-', '+', 'T', ':', '.', 'Z'].all fun d => !Text.isBlank d) = true := by decide
    simpa using List.all_eq_true.mp hmarks c h

theorem mark?_cons (c : Char) (cs : List Char) : mark? c (c :: cs) = some cs := if_pos rfl

theorem dateEnd?_t (cs : List Char) : dateEnd? ('T' :: cs) = some cs := rfl

theorem offset?_z : offset? (mark? ':') ['Z'] = some (0, []) := rfl

/-- The parts of a written time are read in turn. -/
theorem ofChars?_padded {year month day hour minute second nano : ℕ} (hyear : year < 10 ^ 4)
    (hmonth : month < 10 ^ 2) (hday : day < 10 ^ 2) (hhour : hour < 10 ^ 2) (hminute : minute < 10 ^ 2)
    (hsecond : second < 10 ^ 2) (hnano : nano < 1000000000) :
    ofChars? (padded 4 year ++ '-' :: padded 2 month ++ '-' :: padded 2 day ++ 'T' :: padded 2 hour ++
      ':' :: padded 2 minute ++ ':' :: padded 2 second ++ exactFraction nano ++ ['Z']) =
      ofCivil? year month day hour minute second nano 0 := by
  have h2 : 0 < 2 := by decide
  simp only [List.cons_append, List.append_assoc]
  rw [ofChars?]
  simp only [Option.bind_eq_bind, twoDigits?]
  rw [fixedDigits?_padded (by decide : 0 < 4) hyear, Option.bind_some, mark?_cons, Option.bind_some,
    fixedDigits?_padded h2 hmonth, Option.bind_some, mark?_cons, Option.bind_some,
    fixedDigits?_padded h2 hday, Option.bind_some, dateEnd?_t, Option.bind_some,
    fixedDigits?_padded h2 hhour, Option.bind_some, mark?_cons, Option.bind_some,
    fixedDigits?_padded h2 hminute, Option.bind_some, mark?_cons, Option.bind_some,
    fixedDigits?_padded h2 hsecond, Option.bind_some, fraction?_exact hnano, Option.bind_some,
    offset?_z]
  rfl

theorem ofChars?_chars {i : Instant} (h : 0 ≤ i.date.year ∧ i.date.year ≤ 9999) :
    ofChars? (chars exactFraction i) = some i := by
  obtain ⟨hs, hn, -⟩ := i.valid
  obtain ⟨-, ⟨-, hmonth⟩, -, hday⟩ := i.date.valid
  have hmonthDays : daysInMonth i.date.year i.date.month < 10 ^ 2 := by
    unfold daysInMonth
    split_ifs <;> decide
  have hyear : ((i.date.year.toNat : ℕ) : ℤ) = i.date.year := Int.toNat_of_nonneg h.1
  have hread := ofChars?_padded (by omega : i.date.year.toNat < 10 ^ 4) (by omega : i.date.month < 10 ^ 2)
    (hday.trans_lt hmonthDays) (by omega : i.second / 3600 < 10 ^ 2)
    (by omega : i.second / 60 % 60 < 10 ^ 2)
    (by omega : i.second % 60 + i.nano / 1000000000 < 10 ^ 2) (Nat.mod_lt i.nano (by decide))
  rw [chars, yearChars, if_pos h, hread, hyear]
  exact ofCivil?_parts i

theorem ofText?_canonical_eq (i : Instant) : ofText? i.canonical = ofChars? (chars exactFraction i) := by
  rw [ofText?, canonical, String.toList_ofList, Text.trimChars_eq_self fun c hc => isBlank_of_mem_chars hc]

/-- **The canonical text of an instant in the years `0` to `9999` reads back as the instant.** -/
theorem ofText?_canonical {i : Instant} (h : 0 ≤ i.date.year ∧ i.date.year ≤ 9999) :
    ofText? i.canonical = some i := by
  rw [ofText?_canonical_eq, ofChars?_chars h]

/-- In all other years the text starts with a sign, and is not read. -/
theorem ofText?_canonical_of_signed {i : Instant} (h : ¬ (0 ≤ i.date.year ∧ i.date.year ≤ 9999)) :
    ofText? i.canonical = none := by
  obtain ⟨sign, hsign, cs, hcs⟩ : ∃ sign, digit? sign = none ∧ ∃ cs, chars exactFraction i = sign :: cs := by
    rw [chars, yearChars, if_neg h]
    by_cases hneg : i.date.year < 0
    · exact ⟨'-', rfl, _, by rw [if_pos hneg]; rfl⟩
    · exact ⟨'+', rfl, _, by rw [if_neg hneg]; rfl⟩
  rw [ofText?_canonical_eq, hcs, ofChars?, fixedDigits?, hsign]
  rfl

end Instant

end LogQuery
