import LogQuery.Number.Text
import LogQuery.Proofs.Number.Digits

/-!
# Proofs.Number.ReadBack — the text of a number reads back

* `digitsValue_toDigits`, `digitsValue_append`: the value of written digits.
* `Positional.decimal?_append`: what is read from digits with or without a point.
* `exists_spells`: what a style writes by position is digits, or digits around a point, of the right value.
* `ofChars?_canonical`: the canonical text of a finite number is read as that number, a negative zero
  as the positive one.
-/

namespace LogQuery.Number

/-! ## The value of digits -/

theorem digitsValue_eq (ds : List Char) : digitsValue ds = Nat.ofDigitChars 10 ds 0 :=
  Nat.ofDigitChars_eq_foldl.symm

@[simp] theorem digitsValue_toDigits (n : ℕ) : digitsValue (Nat.toDigits 10 n) = n := by
  rw [digitsValue_eq, Nat.ofDigitChars_ten_toDigits]

theorem digitsValue_append (as bs : List Char) :
    digitsValue (as ++ bs) = 10 ^ bs.length * digitsValue as + digitsValue bs := by
  rw [digitsValue_eq, Nat.ofDigitChars_append, Nat.ofDigitChars_eq_ofDigitChars_zero, digitsValue_eq,
    digitsValue_eq]

@[simp] theorem digitsValue_replicate (n : ℕ) : digitsValue (List.replicate n '0') = 0 := by
  rw [digitsValue_eq, Nat.ofDigitChars_replicate_zero, Nat.mul_zero]

theorem isDigit_of_mem_toDigits {n : ℕ} {c : Char} (h : c ∈ Nat.toDigits 10 n) : c.isDigit = true :=
  Nat.isDigit_of_mem_toDigits (by decide) (by decide) h

theorem isDigit_of_mem_replicate {n : ℕ} {c : Char} (h : c ∈ List.replicate n '0') :
    c.isDigit = true := by
  rw [List.eq_of_mem_replicate h]; rfl

/-! ## Reading digits -/

/-- The digits in front of something that does not start with a digit. -/
theorem span_isDigit {ds rest : List Char} (hds : ∀ c ∈ ds, c.isDigit = true)
    (hrest : ∀ c ∈ rest.head?, c.isDigit = false) : (ds ++ rest).span Char.isDigit = (ds, rest) := by
  rw [List.span_eq_takeWhile_dropWhile, List.takeWhile_append_of_pos hds,
    List.dropWhile_append_of_pos hds]
  cases rest with
  | nil => simp
  | cons c cs =>
    have hc := hrest c (by simp)
    rw [List.takeWhile_cons_of_neg (by simp [hc]), List.dropWhile_cons_of_neg (by simp [hc]),
      List.append_nil]

theorem toLower_of_isDigit {c : Char} (hc : c.isDigit = true) : c.toLower = c := by
  simp only [Char.isDigit, Bool.and_eq_true, decide_eq_true_eq] at hc
  unfold Char.toLower
  rw [dif_neg]
  rintro ⟨h, -⟩
  exact absurd (UInt32.le_trans h hc.2) (by decide)

/-- A text that starts with a digit is no word. -/
theorem unsigned?_of_digit (negative : Bool) {c : Char} {cs : List Char} (hc : c.isDigit = true) :
    unsigned? negative (c :: cs) = decimal? negative (c :: cs) := by
  have hlow : c.toLower = c := toLower_of_isDigit hc
  have hword : ∀ d ds, d.isDigit = false →
      String.ofList ((c :: cs).map Char.toLower) ≠ String.ofList (d :: ds) := by
    intro d ds hd he
    have := String.ofList_injective he
    rw [List.map_cons, hlow] at this
    obtain ⟨rfl, -⟩ := List.cons_eq_cons.mp this
    rw [hc] at hd
    exact Bool.noConfusion hd
  have h1 : String.ofList ((c :: cs).map Char.toLower) ≠ "inf" := hword 'i' ['n', 'f'] rfl
  have h2 : String.ofList ((c :: cs).map Char.toLower) ≠ "infinity" :=
    hword 'i' ['n', 'f', 'i', 'n', 'i', 't', 'y'] rfl
  have h3 : String.ofList ((c :: cs).map Char.toLower) ≠ "nan" := hword 'n' ['a', 'n'] rfl
  simp only [unsigned?]
  rw [if_neg (by rintro (h | h); exacts [h1 h, h2 h]), if_neg h3]

theorem ofChars?_of_digit {c : Char} {cs : List Char} (hc : c.isDigit = true) :
    ofChars? (c :: cs) = unsigned? false (c :: cs) := by
  unfold ofChars?
  split
  · rename_i heq
    obtain ⟨rfl, -⟩ := List.cons_eq_cons.mp heq
    exact absurd hc (by decide)
  · rename_i heq
    obtain ⟨rfl, -⟩ := List.cons_eq_cons.mp heq
    exact absurd hc (by decide)
  · rfl

/-! ## Digits written by position -/

/-- Digits, with a point among them if there is a fraction. -/
structure Positional where
  whole : List Char
  fraction : List Char
  whole_digits : ∀ c ∈ whole, c.isDigit = true
  fraction_digits : ∀ c ∈ fraction, c.isDigit = true
  whole_ne : whole ≠ []

namespace Positional

/-- The characters of the digits. -/
def chars (p : Positional) : List Char :=
  p.whole ++ (if p.fraction = [] then [] else '.' :: p.fraction)

/-- The value of the digits. -/
def value (p : Positional) : ℚ :=
  digitsValue (p.whole ++ p.fraction) * 10 ^ (-(p.fraction.length : ℤ))

variable (p : Positional)

theorem head_digit : ∃ c rest, p.chars = c :: rest ∧ c.isDigit = true := by
  obtain ⟨c, ws, hw⟩ := List.exists_cons_of_ne_nil p.whole_ne
  refine ⟨c, ws ++ (if p.fraction = [] then [] else '.' :: p.fraction), ?_, ?_⟩
  · rw [chars, hw, List.cons_append]
  · exact p.whole_digits c (by rw [hw]; exact List.mem_cons_self)

theorem digit_or_point : ∀ c ∈ p.chars, c.isDigit = true ∨ c = '.' := by
  intro c hc
  rw [chars, List.mem_append] at hc
  rcases hc with h | h
  · exact .inl (p.whole_digits c h)
  · split_ifs at h
    · simp at h
    · rcases List.mem_cons.mp h with h | h
      exacts [.inr h, .inl (p.fraction_digits c h)]

/-- The whole part is a zero alone, or does not start with a zero. -/
def NoLeadingZero : Prop := p.whole = ['0'] ∨ p.whole.head? ≠ some '0'

/-- The digits are read up to what follows them, which may be an exponent. -/
theorem decimal?_append (negative : Bool) {tail : List Char}
    (htail : ∀ c ∈ tail.head?, c.isDigit = false ∧ c ≠ '.') :
    decimal? negative (p.chars ++ tail) = (exponent? tail).map fun power =>
      ofDecimal negative (digitsValue (p.whole ++ p.fraction)) (power - p.fraction.length) := by
  have hempty : p.whole.isEmpty = false := by simpa using p.whole_ne
  have hdigit : ∀ c ∈ tail.head?, c.isDigit = false := fun c hc => (htail c hc).1
  by_cases hf : p.fraction = []
  · have hspan : (p.chars ++ tail).span Char.isDigit = (p.whole, tail) := by
      rw [chars, if_pos hf, List.append_nil]
      exact span_isDigit p.whole_digits hdigit
    unfold decimal?
    rw [hspan]
    cases tail with
    | nil => simp [hempty, hf]
    | cons c rest =>
      have hc : c ≠ '.' := (htail c rfl).2
      simp [hc, hempty, hf]
  · have hw : (p.chars ++ tail).span Char.isDigit = (p.whole, '.' :: (p.fraction ++ tail)) := by
      rw [chars, if_neg hf, List.append_assoc]
      refine span_isDigit p.whole_digits fun c hc => ?_
      obtain rfl : '.' = c := by simpa using hc
      rfl
    have hspan : (p.fraction ++ tail).span Char.isDigit = (p.fraction, tail) :=
      span_isDigit p.fraction_digits hdigit
    unfold decimal?
    rw [hw]
    simp only [hspan, hempty, Bool.false_and, Bool.false_eq_true, if_false]

theorem decimal?_chars (negative : Bool) :
    ∃ digits : ℕ, ∃ power : ℤ, (digits : ℚ) * 10 ^ power = p.value ∧
      decimal? negative p.chars = some (ofDecimal negative digits power) := by
  refine ⟨digitsValue (p.whole ++ p.fraction), 0 - p.fraction.length, ?_, ?_⟩
  · rw [value, Int.zero_sub]
  · have hnil : ∀ c ∈ ([] : List Char).head?, c.isDigit = false ∧ c ≠ '.' := by simp
    have h := p.decimal?_append negative hnil
    rwa [List.append_nil, exponent?, Option.map_some] at h

end Positional

theorem head_toDigits {n : ℕ} (hn : 0 < n) : (Nat.toDigits 10 n).head? ≠ some '0' := by
  induction n using Nat.strong_induction_on with
  | _ n ih =>
    rw [Nat.toDigits_eq_if (by decide)]
    split_ifs with hlt
    · have hne : n.digitChar ≠ '0' := fun h => absurd (Nat.digitChar_eq_zero.mp h) (by omega)
      simpa using hne
    · have hhead : (Nat.toDigits 10 (n / 10)).head? ≠ some '0' := ih (n / 10) (by omega) (by omega)
      rwa [List.head?_append_of_ne_nil _ Nat.toDigits_ne_nil]

theorem noLeadingZero_toDigits (n : ℕ) :
    Nat.toDigits 10 n = ['0'] ∨ (Nat.toDigits 10 n).head? ≠ some '0' := by
  rcases Nat.eq_zero_or_pos n with rfl | hn
  exacts [.inl rfl, .inr (head_toDigits hn)]

/-- What a style writes by position for `digits * 10 ^ power`. -/
structure Spells (style : DecimalStyle) (digits : ℕ) (power : ℤ) (p : Positional) : Prop where
  chars : (style.write digits power).toList = p.chars
  value : p.value = digits * 10 ^ power
  noLeadingZero : (digits = 0 → power = 0) → p.NoLeadingZero
  marked : style.wholeMark = true → p.fraction ≠ []

section Spells

variable {style : DecimalStyle} {digits : ℕ} {power : ℤ}
  (hstyle : style.positional (digitCount digits + power) = true)
include hstyle

/-- The digits of a whole number have zeros after them, and a point with a zero in some styles. -/
theorem exists_spells_whole (hp : 0 ≤ power) : ∃ p, Spells style digits power p := by
  have hne : Nat.toDigits 10 digits ≠ [] := Nat.toDigits_ne_nil
  obtain ⟨n, rfl⟩ := Int.eq_ofNat_of_zero_le hp
  have hdigits : ∀ c ∈ Nat.toDigits 10 digits ++ List.replicate n '0', c.isDigit = true := by
    intro c hc
    rcases List.mem_append.mp hc with h | h
    exacts [isDigit_of_mem_toDigits h, isDigit_of_mem_replicate h]
  have hwhole : digitsValue (Nat.toDigits 10 digits ++ List.replicate n '0') = 10 ^ n * digits := by
    rw [digitsValue_append, digitsValue_toDigits, digitsValue_replicate, List.length_replicate, Nat.add_zero]
  refine ⟨⟨Nat.toDigits 10 digits ++ List.replicate n '0', if style.wholeMark then ['0'] else [],
    hdigits, by split_ifs <;> simp, by simp [hne]⟩, ?_, ?_, ?_, ?_⟩
  · unfold digitCount at hstyle
    simp only [DecimalStyle.write, hstyle, if_true, String.toList_ofList, hp, Int.toNat_natCast,
      Positional.chars]
    cases style.wholeMark <;> rfl
  · rw [Positional.value, digitsValue_append, hwhole]
    cases style.wholeMark
    · simp [digitsValue, mul_comm]
    · simp [digitsValue]
      ring
  · intro hzero
    rcases Nat.eq_zero_or_pos digits with rfl | hpos
    · obtain rfl : n = 0 := by exact_mod_cast hzero rfl
      exact .inl rfl
    · refine .inr ?_
      rw [List.head?_append_of_ne_nil _ hne]
      exact head_toDigits hpos
  · intro hmark
    simp [hmark]

/-- The point stands among the digits. -/
theorem exists_spells_point (hp : power < 0) (hpos : 0 < digitCount digits + power) :
    ∃ p, Spells style digits power p := by
  have hds : ∀ c ∈ Nat.toDigits 10 digits, c.isDigit = true := fun c => isDigit_of_mem_toDigits
  obtain ⟨k, hk⟩ := Int.eq_ofNat_of_zero_le hpos.le
  unfold digitCount at hk hpos hstyle
  have hdrop : ((Nat.toDigits 10 digits).drop k).length = (-power).toNat := by
    rw [List.length_drop]; omega
  have hfne : (Nat.toDigits 10 digits).drop k ≠ [] := by
    rw [← List.length_pos_iff, hdrop]; omega
  have htne : (Nat.toDigits 10 digits).take k ≠ [] := by
    rw [← List.length_pos_iff, List.length_take]; omega
  refine ⟨⟨_, _, fun c hc => hds c (List.mem_of_mem_take hc),
    fun c hc => hds c (List.mem_of_mem_drop hc), htne⟩, ?_, ?_, ?_, fun _ => hfne⟩
  · rw [hk] at hstyle hpos
    simp only [DecimalStyle.write, hk, hstyle, if_true, String.toList_ofList, not_le.mpr hp, if_false, hpos,
      Int.toNat_natCast, Positional.chars, hfne]
  · rw [Positional.value, List.take_append_drop, digitsValue_toDigits, hdrop,
      Int.toNat_of_nonneg (by omega), neg_neg]
  · intro hzero
    have hd : 0 < digits := Nat.pos_of_ne_zero fun h => hp.ne (hzero h)
    refine .inr ?_
    rw [List.head?_take, if_neg (by omega)]
    exact head_toDigits hd

/-- The point stands before all digits. -/
theorem exists_spells_fraction (hp : power < 0) (hpos : ¬ 0 < digitCount digits + power) :
    ∃ p, Spells style digits power p := by
  have hne : Nat.toDigits 10 digits ≠ [] := Nat.toDigits_ne_nil
  unfold digitCount at hpos hstyle
  have hfrac : ((List.replicate (-((Nat.toDigits 10 digits).length + power)).toNat '0' ++
      Nat.toDigits 10 digits).length : ℤ) = -power := by
    rw [List.length_append, List.length_replicate]; omega
  have hdigits : ∀ c ∈ List.replicate (-((Nat.toDigits 10 digits).length + power)).toNat '0' ++
      Nat.toDigits 10 digits, c.isDigit = true := by
    intro c hc
    rcases List.mem_append.mp hc with h | h
    exacts [isDigit_of_mem_replicate h, isDigit_of_mem_toDigits h]
  have hfne : List.replicate (-((Nat.toDigits 10 digits).length + power)).toNat '0' ++
      Nat.toDigits 10 digits ≠ [] := by simp [hne]
  refine ⟨⟨['0'], _, by simp, hdigits, by simp⟩, ?_, ?_, fun _ => .inl rfl, fun _ => hfne⟩
  · simp only [DecimalStyle.write, hstyle, if_true, String.toList_ofList, not_le.mpr hp, if_false, hpos,
      Positional.chars, hfne]
    rfl
  · rw [Positional.value, hfrac, neg_neg, digitsValue_append, digitsValue_append, digitsValue_replicate,
      digitsValue_toDigits]
    simp [digitsValue]

theorem exists_spells : ∃ p, Spells style digits power p := by
  by_cases hp : 0 ≤ power
  · exact exists_spells_whole hstyle hp
  · by_cases hpos : 0 < digitCount digits + power
    · exact exists_spells_point hstyle (not_le.mp hp) hpos
    · exact exists_spells_fraction hstyle (not_le.mp hp) hpos

end Spells

/-! ## The canonical text -/

/-- The number with the positive zero for the negative one. -/
def plainZero : Number → Number
  | .finite negative m => .finite (negative && !m.isZero) m
  | n => n

theorem magnitude_eq_zero {m : Magnitude} (hm : m.isZero = true) : m = .zero := by
  have hs : m.significand = 0 := by simpa [Magnitude.isZero] using hm
  obtain ⟨s, e, hn⟩ := m
  obtain rfl : s = 0 := hs
  obtain rfl : e = 0 := by
    rcases hn.2.2 with h | h
    exacts [h, absurd h (by decide)]
  rfl

/-- The sign of a zero has no value. -/
theorem signedUnits_plainZero (negative : Bool) (m : Magnitude) :
    signedUnits (negative && !m.isZero) m = signedUnits negative m := by
  cases hm : m.isZero with
  | false => rw [Bool.not_false, Bool.and_true]
  | true =>
    have hzero : m.units = 0 := by
      rw [magnitude_eq_zero hm]
      rfl
    cases negative <;> simp [signedUnits, hzero]

theorem finite_sign (style : DecimalStyle) (negative : Bool) (m : Magnitude) :
    style.finite negative m = (if negative then "-" else "") ++ style.finite false m := by
  unfold DecimalStyle.finite
  generalize shortest m = s
  cases negative <;> cases m.isZero <;> simp

/-- The decimal that is written for a magnitude. -/
def decimalOf (m : Magnitude) : ℕ × ℤ := if m.isZero then (0, 0) else shortest m

theorem finite_decimalOf (style : DecimalStyle) (m : Magnitude) :
    style.finite false m = style.write (decimalOf m).1 (decimalOf m).2 := by
  unfold DecimalStyle.finite decimalOf
  generalize shortest m = s
  cases m.isZero <;> simp

/-- All digits with the value of that decimal are read as the magnitude. -/
theorem ofDecimal_of_value {m : Magnitude} {digits : ℕ} {power : ℤ}
    (h : (digits : ℚ) * 10 ^ power = (decimalOf m).1 * 10 ^ (decimalOf m).2) (negative : Bool) :
    ofDecimal negative digits power = .finite negative m := by
  unfold decimalOf at h
  cases hm : m.isZero with
  | true =>
    rw [hm, if_pos rfl, Nat.cast_zero, zero_mul] at h
    have hd : digits = 0 := by
      rcases mul_eq_zero.mp h with h | h
      · exact_mod_cast h
      · exact absurd h (zpow_ne_zero _ (by norm_num))
    rw [magnitude_eq_zero hm, hd]
    simp [ofDecimal]
  | false =>
    rw [hm, if_neg Bool.false_ne_true] at h
    exact ofDecimal_of_holds hm (h ▸ shortest_holds hm) negative

/-- What the canonical text spells is read as the magnitude. -/
structure Writes (m : Magnitude) (p : Positional) : Prop where
  chars : (plainStyle.finite false m).toList = p.chars
  ofDecimal : ∀ (digits : ℕ) (power : ℤ) (negative : Bool), (digits : ℚ) * 10 ^ power = p.value →
    ofDecimal negative digits power = .finite negative m

theorem exists_writes (m : Magnitude) : ∃ p, Writes m p := by
  have hstyle : plainStyle.positional (digitCount (decimalOf m).1 + (decimalOf m).2) = true := rfl
  obtain ⟨p, hchars, hvalue, -, -⟩ := exists_spells hstyle
  refine ⟨p, ⟨?_, ?_⟩⟩
  · rw [finite_decimalOf, hchars]
  · intro digits power negative hx
    rw [hvalue] at hx
    exact ofDecimal_of_value hx negative

theorem canonical_finite (negative : Bool) (m : Magnitude) :
    (canonical (.finite negative m)).toList =
      (if negative && !m.isZero then ['-'] else []) ++ (plainStyle.finite false m).toList := by
  rw [canonical, finite_sign, String.toList_append]
  split_ifs <;> rfl

/-- **The canonical text of a finite number reads back as the number.** -/
theorem ofChars?_canonical (negative : Bool) (m : Magnitude) :
    ofChars? (canonical (.finite negative m)).toList = some (plainZero (.finite negative m)) := by
  obtain ⟨p, hp⟩ := exists_writes m
  obtain ⟨digits, power, hx, hdec⟩ := p.decimal?_chars (negative && !m.isZero)
  obtain ⟨c, cs, hcs, hc⟩ := p.head_digit
  have hun : unsigned? (negative && !m.isZero) (c :: cs) = some (plainZero (.finite negative m)) := by
    rw [unsigned?_of_digit _ hc, ← hcs, hdec, hp.ofDecimal digits power _ hx]
    rfl
  rw [canonical_finite, hp.chars, hcs]
  split_ifs with hneg
  · rw [hneg] at hun
    exact hun
  · rw [Bool.eq_false_iff.mpr hneg] at hun
    rw [List.nil_append, ofChars?_of_digit hc]
    exact hun

end LogQuery.Number
