import LogQuery.Instant.Relaxed
import LogQuery.Proofs.Instant.ReadBack

/-!
# Proofs.Instant.RelaxedReadBack — timestamps of logs read back

The relaxed form takes a year with a sign, so that the canonical text of every instant is read, also outside
the years `0` to `9999`.

* `someDigits?_append`: digits in front of what is none.
* `ofLooseChars?_padded`: the parts of a written time are read in turn.
* `Instant.IsReadFrom`: a text that stands for a timestamp in front of a level; the canonical text is one.
-/

namespace LogQuery

/-- A blank at the end is trimmed. -/
theorem Text.trimChars_concat_blank {c : Char} (hc : Text.isBlank c = true) (cs : List Char) :
    Text.trimChars (cs ++ [c]) = Text.trimChars cs := by
  have hend : ∀ ds : List Char, Text.trimEnd (ds ++ [c]) = Text.trimEnd ds := by
    intro ds
    rw [Text.trimEnd, List.reverse_append, List.reverse_singleton, List.singleton_append,
      List.dropWhile_cons_of_pos hc]
    rfl
  have hstart : ∀ ds : List Char, Text.trimEnd ((ds ++ [c]).dropWhile Text.isBlank) =
      Text.trimEnd (ds.dropWhile Text.isBlank) := by
    intro ds
    induction ds with
    | nil => simp [hc]
    | cons d ds ih =>
      by_cases hd : Text.isBlank d = true
      · simp only [List.cons_append, List.dropWhile_cons_of_pos hd]
        exact ih
      · simp only [List.cons_append, List.dropWhile_cons_of_neg hd]
        exact hend (d :: ds)
  exact hstart cs

namespace Instant

/-! ## Digits and marks -/

/-- The digits in front of what starts with none. -/
theorem takeWhile_digits {ds rest : List Char} (hds : ∀ c ∈ ds, c.isDigit = true)
    (hrest : ∀ c ∈ rest.head?, c.isDigit = false) : (ds ++ rest).takeWhile Char.isDigit = ds := by
  rw [List.takeWhile_append_of_pos hds]
  cases rest with
  | nil => simp
  | cons c cs => simp [hrest c rfl]

theorem someDigits?_append {more : Option ℕ} {ds rest : List Char} (hds : ∀ c ∈ ds, c.isDigit = true)
    (hne : ds ≠ []) (hrest : ∀ c ∈ rest.head?, c.isDigit = false) (hlen : ∀ m ∈ more, ds.length ≤ m + 1) :
    someDigits? more (ds ++ rest) = some (Nat.ofDigitChars 10 ds 0, rest) := by
  have hempty : ds.isEmpty = false := by simpa using hne
  cases more with
  | none =>
    rw [Nat.ofDigitChars_eq_foldl]
    simp only [someDigits?, takeWhile_digits hds hrest, hempty, Bool.false_eq_true, if_false, List.drop_left]
  | some count =>
    have hfit : ds.length ≤ count + 1 := hlen count rfl
    have hcut : ∀ c ∈ (rest.take (count + 1 - ds.length)).head?, c.isDigit = false := by
      intro c hc
      refine hrest c ?_
      rw [List.head?_take] at hc
      split_ifs at hc
      · simp at hc
      · exact hc
    have htake : ((ds ++ rest).take (count + 1)).takeWhile Char.isDigit = ds := by
      rw [List.take_append, List.take_of_length_le hfit, takeWhile_digits hds hcut]
    rw [Nat.ofDigitChars_eq_foldl]
    simp only [someDigits?, htake, hempty, Bool.false_eq_true, if_false, List.drop_left]

theorem trimStart_of_head {c : Char} (hc : Text.isBlank c = false) (cs : List Char) :
    Text.trimStart (c :: cs) = c :: cs := by simp [Text.trimStart, hc]

/-- A number with leading zeros starts with a digit. -/
theorem exists_cons_padded (width n : ℕ) :
    ∃ c cs, padded width n = c :: cs ∧ c.isDigit = true := by
  have hne : padded width n ≠ [] := fun h => Nat.toDigits_ne_nil (List.append_eq_nil_iff.mp h).2
  obtain ⟨c, cs, hcs⟩ := List.exists_cons_of_ne_nil hne
  exact ⟨c, cs, hcs, isDigit_of_mem_padded (hcs ▸ List.mem_cons_self)⟩

theorem trimStart_padded (width n : ℕ) (rest : List Char) :
    Text.trimStart (padded width n ++ rest) = padded width n ++ rest := by
  obtain ⟨c, cs, hcs, hc⟩ := exists_cons_padded width n
  rw [hcs, List.cons_append]
  exact trimStart_of_head (Text.isBlank_of_isDigit hc) _

/-- A number with leading zeros is read up to what follows it, if there is room for its digits. -/
theorem someDigits?_padded {more : Option ℕ} {width n : ℕ} {rest : List Char}
    (hrest : ∀ c ∈ rest.head?, c.isDigit = false) (hlen : ∀ m ∈ more, (padded width n).length ≤ m + 1) :
    someDigits? more (padded width n ++ rest) = some (n, rest) := by
  obtain ⟨c, cs, hcs, -⟩ := exists_cons_padded width n
  have hne : padded width n ≠ [] := hcs ▸ List.cons_ne_nil c cs
  rw [someDigits?_append (fun c => isDigit_of_mem_padded) hne hrest hlen, ofDigitChars_padded]

theorem someDigits?_fixed {more n : ℕ} (h : n < 10 ^ (more + 1)) {rest : List Char}
    (hrest : ∀ c ∈ rest.head?, c.isDigit = false) :
    someDigits? (some more) (padded (more + 1) n ++ rest) = some (n, rest) := by
  refine someDigits?_padded hrest fun m hm => ?_
  obtain rfl : more = m := by simpa using hm
  exact (length_padded (Nat.succ_pos more) h).le

theorem looseTwo?_padded {n : ℕ} (h : n < 10 ^ 2) {rest : List Char}
    (hrest : ∀ c ∈ rest.head?, c.isDigit = false) : looseTwo? (padded 2 n ++ rest) = some (n, rest) := by
  rw [looseTwo?, trimStart_padded]
  exact someDigits?_fixed h hrest

/-- A year of four digits is read without a sign. -/
theorem looseYear?_padded {n : ℕ} (h : n < 10 ^ 4) {rest : List Char}
    (hrest : ∀ c ∈ rest.head?, c.isDigit = false) : looseYear? (padded 4 n ++ rest) = some ((n : ℤ), rest) := by
  have hdigits : someDigits? (some 3) (padded 4 n ++ rest) = some (n, rest) := someDigits?_fixed h hrest
  obtain ⟨c, cs, hcs, hc⟩ := exists_cons_padded 4 n
  rw [looseYear?, trimStart_padded]
  rw [hcs, List.cons_append] at hdigits ⊢
  -- the first character is a digit and no sign
  split
  · rename_i heq
    obtain rfl := (List.cons.inj heq).1
    exact absurd hc (by decide)
  · rename_i heq
    obtain rfl := (List.cons.inj heq).1
    exact absurd hc (by decide)
  · rw [hdigits]
    rfl

/-- After a sign a year has any number of digits. -/
theorem looseYear?_signed (negative : Bool) (n : ℕ) {rest : List Char}
    (hrest : ∀ c ∈ rest.head?, c.isDigit = false) :
    looseYear? ((if negative then '-' else '+') :: padded 4 n ++ rest) =
      some (if negative then -(n : ℤ) else n, rest) := by
  have hdigits : someDigits? none (padded 4 n ++ rest) = some (n, rest) := someDigits?_padded hrest (by simp)
  cases negative with
  | true =>
    rw [if_pos rfl, List.cons_append, looseYear?, trimStart_of_head (by decide)]
    show (someDigits? none _).map _ = _
    rw [hdigits]
    rfl
  | false =>
    rw [if_neg Bool.false_ne_true, List.cons_append, looseYear?, trimStart_of_head (by decide)]
    show (someDigits? none _).map _ = _
    rw [hdigits]
    rfl

/-- Four digits without a sign, or a sign and as many digits as there are. -/
theorem looseYear?_yearChars (year : ℤ) {rest : List Char} (hrest : ∀ c ∈ rest.head?, c.isDigit = false) :
    looseYear? (yearChars year ++ rest) = some (year, rest) := by
  rw [yearChars]
  split_ifs with hyear hneg
  · rw [looseYear?_padded (by omega) hrest, Int.toNat_of_nonneg hyear.1]
  · have habs : -(year.natAbs : ℤ) = year := by omega
    exact (looseYear?_signed true year.natAbs hrest).trans (by rw [if_pos rfl, habs])
  · have habs : (year.natAbs : ℤ) = year := by omega
    exact (looseYear?_signed false year.natAbs hrest).trans (by rw [if_neg Bool.false_ne_true, habs])

theorem looseMark?_cons {c : Char} (hc : Text.isBlank c = false) (cs : List Char) :
    looseMark? c (c :: cs) = some cs := by
  rw [looseMark?, trimStart_of_head hc, mark?_cons]

/-! ## The canonical text -/

/-- The parts of a written time are read in turn. -/
theorem ofLooseChars?_padded {year : ℤ} {month day hour minute second nano : ℕ} (hmonth : month < 10 ^ 2)
    (hday : day < 10 ^ 2) (hhour : hour < 10 ^ 2) (hminute : minute < 10 ^ 2) (hsecond : second < 10 ^ 2)
    (hnano : nano < 1000000000) :
    ofLooseChars? (yearChars year ++ '-' :: padded 2 month ++ '-' :: padded 2 day ++ 'T' :: padded 2 hour ++
      ':' :: padded 2 minute ++ ':' :: padded 2 second ++ exactFraction nano ++ ['Z']) =
      ofCivil? year month day hour minute second nano 0 := by
  have hmark : ∀ {d : Char} {cs : List Char}, d.isDigit = false → ∀ c ∈ (d :: cs).head?, c.isDigit = false := by
    intro d cs hd c hc
    obtain rfl : d = c := by simpa using hc
    exact hd
  have hfraction : ∀ c ∈ (exactFraction nano ++ ['Z']).head?, c.isDigit = false := by
    unfold exactFraction
    split_ifs <;> exact hmark (by decide)
  simp only [List.cons_append, List.append_assoc]
  rw [ofLooseChars?]
  simp only [Option.bind_eq_bind]
  rw [looseYear?_yearChars year (hmark (by decide)), Option.bind_some,
    looseMark?_cons (by decide), Option.bind_some,
    looseTwo?_padded hmonth (hmark (by decide)), Option.bind_some,
    looseMark?_cons (by decide), Option.bind_some,
    looseTwo?_padded hday (hmark (by decide)), Option.bind_some, dateEnd?_t, Option.bind_some,
    looseTwo?_padded hhour (hmark (by decide)), Option.bind_some,
    looseMark?_cons (by decide), Option.bind_some,
    looseTwo?_padded hminute (hmark (by decide)), Option.bind_some,
    looseMark?_cons (by decide), Option.bind_some,
    looseTwo?_padded hsecond hfraction, Option.bind_some,
    fraction?_exact hnano, Option.bind_some]
  rfl

theorem ofLooseChars?_chars (i : Instant) : ofLooseChars? (chars exactFraction i) = some i := by
  obtain ⟨hs, hn, -⟩ := i.valid
  obtain ⟨-, ⟨-, hmonth⟩, -, hday⟩ := i.date.valid
  have hdays : daysInMonth i.date.year i.date.month < 10 ^ 2 := by
    unfold daysInMonth
    split_ifs <;> decide
  rw [chars, ofLooseChars?_padded (by omega) (hday.trans_lt hdays) (by omega) (by omega) (by omega)
    (Nat.mod_lt i.nano (by decide))]
  exact ofCivil?_parts i

/-- The text is read as the instant where it stands in front of a bracket, perhaps with white space around it. -/
structure IsReadFrom (i : Instant) (stamp : String) : Prop where
  no_bracket : '[' ∉ stamp.toList
  read : ofLooseChars? (Text.trimChars stamp.toList) = some i

theorem isReadFrom_canonical (i : Instant) : i.IsReadFrom i.canonical where
  no_bracket := by
    rw [canonical, String.toList_ofList]
    intro hc
    rcases digit_or_mark_of_mem_chars digit_or_mark_of_mem_exactFraction hc with h | h
    exacts [absurd h (by decide), absurd h (by decide)]
  read := by
    rw [canonical, String.toList_ofList, Text.trimChars_eq_self fun c hc => isBlank_of_mem_chars hc]
    exact ofLooseChars?_chars i

end Instant

end LogQuery
