import LogQuery.Proofs.Number.ReadBack

/-!
# Proofs.Number.Distinct — numbers with the same canonical text

The canonical text is read back, so that it tells all numbers apart but the two zeros. These are equal as
values too. A NaN is the only number that has the text of a number to which it is not equal: itself.

* `Magnitude.units_injective`: equal magnitudes have equal parts.
* `compare?_eq_eq_iff`: which numbers are equal as values.
* `canonical_eq_iff`: which numbers have one text.
* `canonical_eq_iff_equal`: the two are the same beside a number that is no NaN.
-/

namespace LogQuery

/-! ## Magnitudes -/

/-- The greater exponent would need a significand of more than 53 bits on the other side. -/
theorem Magnitude.eq_of_units_eq {m n : Magnitude} (h : m.units = n.units) (hle : m.exponent ≤ n.exponent) :
    m = n := by
  obtain ⟨s, e, hm⟩ := m
  obtain ⟨s', e', hn⟩ := n
  obtain ⟨d, rfl⟩ := Nat.exists_eq_add_of_le hle
  have hs : s = s' * 2 ^ d := by
    refine Nat.eq_of_mul_eq_mul_right (Nat.two_pow_pos e) ?_
    calc s * 2 ^ e = s' * 2 ^ (e + d) := h
      _ = s' * 2 ^ d * 2 ^ e := by rw [Nat.pow_add]; ring
  cases d with
  | zero =>
    obtain rfl : s = s' := by simpa using hs
    rfl
  | succ d =>
    have hnormal : 2 ^ 52 ≤ s' := hn.2.2.resolve_left (by omega)
    have hshift : 2 ≤ 2 ^ (d + 1) := Nat.le_self_pow (Nat.succ_ne_zero d) 2
    have hbits : 2 ^ 52 * 2 ≤ s := hs ▸ Nat.mul_le_mul hnormal hshift
    have hbound := hm.1
    omega

theorem Magnitude.units_injective : Function.Injective Magnitude.units := by
  intro m n h
  rcases Nat.le_total m.exponent n.exponent with hle | hle
  · exact eq_of_units_eq h hle
  · exact (eq_of_units_eq h.symm hle).symm

namespace Number

theorem natAbs_signedUnits (negative : Bool) (m : Magnitude) : (signedUnits negative m).natAbs = m.units := by
  cases negative <;> simp [signedUnits]

theorem units_pos {m : Magnitude} (hm : m.isZero = false) : 0 < m.units := by
  have hs : m.significand ≠ 0 := by simpa [Magnitude.isZero] using hm
  exact Nat.mul_pos (Nat.pos_of_ne_zero hs) (Nat.two_pow_pos m.exponent)

/-- Only the sign of a zero is lost in the value. -/
theorem signedUnits_eq_iff {a b : Bool} {m n : Magnitude} :
    signedUnits a m = signedUnits b n ↔ plainZero (.finite a m) = plainZero (.finite b n) := by
  constructor
  · intro h
    obtain rfl : m = n := by
      refine Magnitude.units_injective ?_
      rw [← natAbs_signedUnits a m, h, natAbs_signedUnits]
    cases hm : m.isZero with
    | true => simp [plainZero, hm]
    | false =>
      have hpos := units_pos hm
      obtain rfl : a = b := by
        cases a <;> cases b <;> first | rfl | (simp only [signedUnits] at h; simp at h; omega)
      rfl
  · intro h
    simp only [plainZero, finite.injEq] at h
    rw [← signedUnits_plainZero a m, h.1, h.2, signedUnits_plainZero]

/-! ## Numbers -/

/-- Numbers are equal as values if they differ in the sign of a zero at most, and are no NaN. -/
theorem compare?_eq_eq_iff {a b : Number} : a.compare? b = some .eq ↔ a ≠ .nan ∧ a.plainZero = b.plainZero := by
  cases a with
  | nan => simp [compare?]
  | infinite s => cases b <;> cases s <;> simp [compare?, plainZero]
  | finite s m =>
    cases b with
    | finite t n =>
      rw [compare?, Option.some.injEq, Int.compare_eq_eq, signedUnits_eq_iff]
      simp
    | infinite t => cases t <;> simp [compare?, plainZero]
    | nan => simp [compare?, plainZero]

/-- The canonical text of every number is read as the number, a negative zero as the positive one. -/
theorem ofText?_canonical (n : Number) : ofText? n.canonical = some n.plainZero := by
  cases n with
  | nan => rfl
  | infinite negative => cases negative <;> rfl
  | finite negative m => exact ofChars?_canonical negative m

theorem canonical_plainZero (n : Number) : n.plainZero.canonical = n.canonical := by
  cases n with
  | finite negative m => simp [plainZero, canonical]
  | _ => rfl

/-- **Two numbers have one canonical text if they differ in the sign of a zero at most.** -/
theorem canonical_eq_iff {a b : Number} : a.canonical = b.canonical ↔ a.plainZero = b.plainZero := by
  constructor
  · intro h
    have hread := congrArg ofText? h
    rwa [ofText?_canonical, ofText?_canonical, Option.some.injEq] at hread
  · intro h
    rw [← canonical_plainZero a, h, canonical_plainZero]

/-- Beside a number that is no NaN, equality of canonical texts is equality of values. -/
theorem canonical_eq_iff_equal {a b : Number} (hb : b ≠ .nan) :
    a.canonical = b.canonical ↔ a.compare? b = some .eq := by
  rw [canonical_eq_iff, compare?_eq_eq_iff]
  refine ⟨fun h => ⟨?_, h⟩, fun h => h.2⟩
  rintro rfl
  cases b with
  | nan => exact hb rfl
  | _ => exact nomatch h

end Number

end LogQuery
