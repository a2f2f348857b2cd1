import LogQuery.Proofs.Instant.ReadBack

/-!
# Proofs.Instant.Offset — the instants that are read from texts

A text names a local date of the years `0` to `9999` and an offset from UTC of less than a day. Seen from
UTC the date is the day before, the day itself or the day after, so that it leaves these years at their very
ends only: on the last day of the year `-1` and on the first day of the year `10000`.

* `fixedDigits?_lt`: a number of `count` digits.
* `move?_year`: the day before and the day after are in the same year, or they begin or end one.
* `date_of_ofText?`: the dates of the instants that are read.
* `ofText?_canonical_ite`: of these, all but those of the two outer days are read again.
-/

namespace LogQuery

/-! ## Days beside a day -/

namespace Date

theorem of?_eq_some {year : ℤ} {month day : ℕ} {d : Date} (h : of? year month day = some d) :
    d.year = year ∧ d.month = month ∧ d.day = day := by
  unfold of? at h
  split_ifs at h
  obtain rfl := Option.some.inj h
  exact ⟨rfl, rfl, rfl⟩

/-- The last day of the year before a year, or the first day of the year after it. -/
def IsBeside (year : ℤ) (d : Date) : Prop :=
  (d.year = year - 1 ∧ d.month = 12 ∧ d.day = 31) ∨ (d.year = year + 1 ∧ d.month = 1 ∧ d.day = 1)

/-- A date that moves by a day stays in its year, or it goes to the day beside it. -/
theorem move?_year {d d' : Date} {days : ℤ} (h : d.move? days = some d') :
    d'.year = d.year ∨ IsBeside d.year d' := by
  unfold move? at h
  split_ifs at h
  · unfold previous? at h
    split_ifs at h
    · exact .inl (of?_eq_some h).1
    · exact .inl (of?_eq_some h).1
    · exact .inr (.inl (of?_eq_some h))
  · unfold next? at h
    split_ifs at h
    · exact .inl (of?_eq_some h).1
    · exact .inl (of?_eq_some h).1
    · exact .inr (.inr (of?_eq_some h))
  · obtain rfl := Option.some.inj h
    exact .inl rfl

end Date

namespace Instant

/-! ## Texts -/

theorem digit?_lt {c : Char} {d : ℕ} (h : digit? c = some d) : d < 10 := by
  unfold digit? at h
  split_ifs at h with hc
  obtain rfl := Option.some.inj h
  simp only [Char.isDigit, Bool.and_eq_true, decide_eq_true_eq, UInt32.le_iff_toNat_le] at hc
  have hle : c.toNat ≤ 57 := hc.2
  have hzero : '0'.toNat = 48 := rfl
  omega

/-- Digits that continue a number. -/
theorem fixedDigits?_lt {count value n : ℕ} {cs rest : List Char}
    (h : fixedDigits? count value cs = some (n, rest)) : n < (value + 1) * 10 ^ count := by
  fun_induction fixedDigits? count value cs with
  | case1 value cs =>
    obtain ⟨rfl, -⟩ := Prod.mk.inj (Option.some.inj h)
    simp
  | case2 => exact nomatch h
  | case3 count value c cs ih =>
    obtain ⟨d, hd, hrest⟩ := Option.bind_eq_some_iff.mp h
    have hdigit := digit?_lt hd
    calc n < (10 * value + d + 1) * 10 ^ count := ih d hrest
      _ ≤ (10 * (value + 1)) * 10 ^ count := Nat.mul_le_mul_right _ (by omega)
      _ = (value + 1) * 10 ^ (count + 1) := by ring

theorem of?_date_eq {date : Date} {second nano : ℕ} {i : Instant} (h : of? date second nano = some i) :
    i.date = date := by
  unfold of? at h
  split_ifs at h
  obtain rfl := Option.some.inj h
  rfl

/-- An offset moves a local date by a day at most. -/
theorem date_of_ofCivil? {year : ℤ} {month day hour minute second nano : ℕ} {offset : ℤ} {i : Instant}
    (h : ofCivil? year month day hour minute second nano offset = some i) :
    i.date.year = year ∨ i.date.IsBeside year := by
  simp only [ofCivil?, Option.bind_eq_bind, Option.bind_eq_some_iff] at h
  obtain ⟨date, hdate, -, -, -, -, date', hmove, hi⟩ := h
  rw [of?_date_eq hi, ← (Date.of?_eq_some hdate).1]
  exact Date.move?_year hmove

/-- What is read has a local date with a year of four digits, and an offset. -/
theorem exists_civil_of_ofText? {s : String} {i : Instant} (h : ofText? s = some i) :
    ∃ year < 10000, ∃ month day hour minute second nano offset,
      ofCivil? (year : ℕ) month day hour minute second nano offset = some i := by
  simp only [ofText?, ofChars?, Option.bind_eq_bind, Option.bind_eq_some_iff] at h
  obtain ⟨⟨year, cs⟩, hyear, h⟩ := h
  obtain ⟨_, _, ⟨month, _⟩, _, _, _, ⟨day, _⟩, _, _, _, ⟨hour, _⟩, _, _, _, ⟨minute, _⟩, _, _, _,
    ⟨second, _⟩, _, ⟨nano, _⟩, _, ⟨offset, _⟩, _, _, _, hcivil⟩ := h
  exact ⟨year, by simpa using fixedDigits?_lt hyear, month, day, hour, minute, second, nano, offset, hcivil⟩

/-- **The dates of the instants that are read**: those of the years `0` to `9999`, and the days beside them. -/
theorem date_of_ofText? {s : String} {i : Instant} (h : ofText? s = some i) :
    (0 ≤ i.date.year ∧ i.date.year ≤ 9999) ∨ (i.date.year = -1 ∧ i.date.month = 12 ∧ i.date.day = 31) ∨
      (i.date.year = 10000 ∧ i.date.month = 1 ∧ i.date.day = 1) := by
  obtain ⟨year, hlt, month, day, hour, minute, second, nano, offset, hcivil⟩ := exists_civil_of_ofText? h
  rcases date_of_ofCivil? hcivil with hsame | ⟨hbefore, hday⟩ | ⟨hafter, hday⟩
  · left
    omega
  · have hin : i.date.year = -1 ∨ 0 ≤ i.date.year ∧ i.date.year ≤ 9999 := by omega
    exact hin.elim (fun hfirst => .inr (.inl ⟨hfirst, hday⟩)) .inl
  · have hin : i.date.year = 10000 ∨ 0 ≤ i.date.year ∧ i.date.year ≤ 9999 := by omega
    exact hin.elim (fun hlast => .inr (.inr ⟨hlast, hday⟩)) .inl

/-- The canonical text is read as the instant in the years `0` to `9999`, and not at all in other years. -/
theorem ofText?_canonical_ite (i : Instant) :
    ofText? i.canonical = if 0 ≤ i.date.year ∧ i.date.year ≤ 9999 then some i else none := by
  split_ifs with hyear
  · exact ofText?_canonical hyear
  · exact ofText?_canonical_of_signed hyear

end Instant

end LogQuery
