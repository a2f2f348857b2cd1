import LogQuery.Proofs.Number.Nearest
import Mathlib.Algebra.Order.Field.Power
import Mathlib.Tactic.Positivity

/-!
# Proofs.Number.Digits — the shortest digits round to their magnitude

Decimals are taken as rational numbers `digits * 10 ^ power`.

* `admits_iff`: the test of a grid point is membership in the interval.
* `exists_onGrid`: the grid of seventeen digits is finer than the interval, so one of the two points
  next to the value lies in it and the search never runs out.
* `shortest_holds`: the digits that are written lie in the interval of their magnitude.
* `ofDecimal_of_holds`: every decimal of the interval is read as the magnitude.
-/

namespace LogQuery.Number

/-! ## Powers of ten -/

theorem ten_zpow_pos (power : ℤ) : (0 : ℚ) < 10 ^ power := zpow_pos (by norm_num) power

theorem digitCount_pos (n : ℕ) : 0 < digitCount n := Nat.length_toDigits_pos

theorem lt_ten_pow_digitCount (n : ℕ) : n < 10 ^ digitCount n :=
  (Nat.length_toDigits_le_iff (by decide) (digitCount_pos n)).mp (Nat.le_refl _)

theorem ten_pow_le_of_digitCount {n : ℕ} (hn : 0 < n) : 10 ^ (digitCount n - 1) ≤ n := by
  rcases Nat.eq_zero_or_pos (digitCount n - 1) with h0 | hpos
  · rw [h0]; omega
  · by_contra hc
    have hle := (Nat.length_toDigits_le_iff (b := 10) (by decide) hpos).mpr (Nat.lt_of_not_le hc)
    have hc' : digitCount n ≤ digitCount n - 1 := hle
    have := digitCount_pos n
    omega

/-- A decimal is below the power of ten at its position and not below the one before. -/
theorem decimal_bounds {digits : ℕ} (hd : 0 < digits) (power : ℤ) :
    (10 : ℚ) ^ (digitCount digits + power - 1) ≤ digits * 10 ^ power ∧
      (digits : ℚ) * 10 ^ power < 10 ^ (digitCount digits + power) := by
  have hpos := ten_zpow_pos power
  have hne : (10 : ℚ) ≠ 0 := by norm_num
  have hlo : ((10 ^ (digitCount digits - 1) : ℕ) : ℚ) ≤ digits := by
    exact_mod_cast ten_pow_le_of_digitCount hd
  have hhi : (digits : ℚ) < ((10 ^ digitCount digits : ℕ) : ℚ) := by
    exact_mod_cast lt_ten_pow_digitCount digits
  have hc := digitCount_pos digits
  push_cast at hlo hhi
  rw [← zpow_natCast] at hlo hhi
  constructor
  · have he : ((digitCount digits : ℤ) + power - 1) = ((digitCount digits - 1 : ℕ) : ℤ) + power := by
      omega
    rw [he, zpow_add₀ hne]
    exact mul_le_mul_of_nonneg_right hlo hpos.le
  · rw [zpow_add₀ hne]
    exact mul_lt_mul_of_pos_right hhi hpos

/-! ## Grid points and the interval -/

theorem gridUnits_fst_pos (power : ℤ) : 0 < (gridUnits power).1 := by
  unfold gridUnits
  split_ifs
  · exact Nat.one_pos
  · exact Nat.pos_of_ne_zero (by simp)

/-- The unit of the grid, counted in the unit of the interval. -/
theorem gridUnits_ratio (power : ℤ) :
    ((gridUnits power).2 : ℚ) = 10 ^ power * scale * (gridUnits power).1 := by
  unfold gridUnits
  split_ifs with h
  · obtain ⟨n, rfl⟩ := Int.eq_ofNat_of_zero_le h
    dsimp only
    rw [Nat.cast_mul, cast_scale, Nat.cast_pow, Int.toNat_natCast, zpow_natCast, Nat.cast_one, mul_one]
    rfl
  · obtain ⟨n, hn⟩ := Int.eq_ofNat_of_zero_le (show 0 ≤ -power by omega)
    obtain rfl : power = -(n : ℤ) := by omega
    have hne : (10 : ℚ) ^ n ≠ 0 := pow_ne_zero n (by norm_num)
    have hn' : (-(-(n : ℤ))).toNat = n := by omega
    dsimp only
    rw [hn', cast_scale, Nat.cast_pow, zpow_neg, zpow_natCast, mul_right_comm]
    show scale = ((10 : ℚ) ^ n)⁻¹ * 10 ^ n * scale
    rw [inv_mul_cancel₀ hne, one_mul]

theorem admits_iff {r : Rounding} {digits : ℕ} {power : ℤ} :
    r.admits digits power = true ↔ r.Holds (digits * 10 ^ power) := by
  have hi : (0 : ℚ) < (gridUnits power).1 := by exact_mod_cast gridUnits_fst_pos power
  have hg := gridUnits_ratio power
  have hpoint : (digits : ℚ) * 10 ^ power * scale * (gridUnits power).1 =
      ((digits * (gridUnits power).2 : ℕ) : ℚ) := by
    rw [Nat.cast_mul, hg]
    ring
  have hle : ∀ b : ℕ, (b : ℚ) ≤ digits * 10 ^ power * scale ↔
      b * (gridUnits power).1 ≤ digits * (gridUnits power).2 := fun b => by
    rw [← mul_le_mul_iff_left₀ hi, hpoint]
    exact_mod_cast Iff.rfl
  have hge : ∀ b : ℕ, (digits : ℚ) * 10 ^ power * scale ≤ b ↔
      digits * (gridUnits power).2 ≤ b * (gridUnits power).1 := fun b => by
    rw [← mul_le_mul_iff_left₀ hi, hpoint]
    exact_mod_cast Iff.rfl
  unfold Rounding.Holds Rounding.admits
  rw [← not_le, ← not_le, hle, hge, hge, hle]
  cases hc : r.closed
  · simp only [Bool.false_eq_true, if_false, Bool.and_eq_true, decide_eq_true_eq]
    constructor
    · rintro ⟨h1, h2⟩
      exact ⟨h1.le, h2.le, fun _ => ⟨not_le.mpr h1, not_le.mpr h2⟩⟩
    · rintro ⟨-, -, h⟩
      obtain ⟨h1, h2⟩ := h trivial
      exact ⟨not_le.mp h1, not_le.mp h2⟩
  · simp

theorem holds_of_lt {r : Rounding} {x : ℚ} (h1 : (r.low : ℚ) < x * scale)
    (h2 : x * scale < r.high) : r.Holds x :=
  ⟨h1.le, h2.le, fun _ => ⟨h1, h2⟩⟩

theorem holds_of_onGrid {r : Rounding} {power : ℤ} {digits : ℕ} (h : r.onGrid? power = some digits) :
    r.Holds (digits * 10 ^ power) := by
  unfold Rounding.onGrid? at h
  dsimp only at h
  split at h
  · rename_i h1 h2
    obtain rfl := Option.some.inj h
    rw [← admits_iff]
    split_ifs
    · exact h1
    · exact h2
    · rcases Nat.mod_two_eq_zero_or_one (r.value * (gridUnits power).1 / (gridUnits power).2) with h0 | h0
      · rw [h0]; exact h1
      · rw [h0]; exact h2
  · rename_i h1 h2
    obtain rfl := Option.some.inj h
    exact admits_iff.mp h1
  · rename_i h1 h2
    obtain rfl := Option.some.inj h
    exact admits_iff.mp h2
  · exact nomatch h

/-! ## Seventeen digits suffice -/

/-- A point not above the value, or the next one, lies strictly inside the interval. -/
theorem point_or_next {low value high point grid half part : ℚ} (hlow : low = value - part)
    (hhigh : high = value + half) (hpart : 0 < part) (hhalf : 0 < half) (h1 : point ≤ value)
    (h2 : value < point + grid) (hg : grid < 2 * half) (hs : half ≤ grid → part = half) :
    (low < point ∧ point < high) ∨ (low < point + grid ∧ point + grid < high) := by
  by_cases hsmall : grid < half
  · right
    constructor <;> linarith
  · have hp := hs (not_lt.mp hsmall)
    by_cases hnear : value - point < half
    · left
      constructor <;> linarith
    · right
      constructor <;> linarith

theorem below_pos (m : Magnitude) : (0 : ℚ) < below m := by
  have : 0 < below m := by
    have := Nat.two_pow_pos m.exponent
    unfold below; split_ifs <;> omega
  exact_mod_cast this

theorem below_eq (m : Magnitude) :
    below m = 2 ^ m.exponent ∨ (below m : ℚ) = 2 * 2 ^ m.exponent := by
  unfold below
  split_ifs
  · exact Or.inl rfl
  · right
    push_cast
    rfl

/-- The last grid point that is not above the value. -/
def point (r : Rounding) (power : ℤ) : ℕ :=
  r.value * (gridUnits power).1 / (gridUnits power).2

theorem exists_onGrid_of_admits {r : Rounding} {power : ℤ}
    (h : r.admits (point r power) power = true ∨ r.admits (point r power + 1) power = true) :
    ∃ digits, r.onGrid? power = some digits := by
  unfold point at h
  unfold Rounding.onGrid?
  dsimp only
  rcases h with h | h
  · rw [h]
    cases r.admits (r.value * (gridUnits power).1 / (gridUnits power).2 + 1) power <;> exact ⟨_, rfl⟩
  · rw [h]
    cases r.admits (r.value * (gridUnits power).1 / (gridUnits power).2) power <;> exact ⟨_, rfl⟩

theorem gridUnits_snd_pos (power : ℤ) : (0 : ℚ) < (gridUnits power).2 := by
  have hi : (0 : ℚ) < (gridUnits power).1 := by exact_mod_cast gridUnits_fst_pos power
  rw [gridUnits_ratio]
  exact mul_pos (mul_pos (ten_zpow_pos power) scale_pos) hi

theorem point_le (r : Rounding) (power : ℤ) : (point r power : ℚ) * 10 ^ power * scale ≤ r.value := by
  have hi : (0 : ℚ) < (gridUnits power).1 := by exact_mod_cast gridUnits_fst_pos power
  have h : point r power * (gridUnits power).2 ≤ r.value * (gridUnits power).1 :=
    Nat.div_mul_le_self _ _
  have hq : (point r power : ℚ) * (gridUnits power).2 ≤ r.value * (gridUnits power).1 := by
    exact_mod_cast h
  rw [gridUnits_ratio, ← mul_assoc, ← mul_assoc] at hq
  exact le_of_mul_le_mul_right hq hi

theorem lt_point_add (r : Rounding) (power : ℤ) :
    (r.value : ℚ) < point r power * 10 ^ power * scale + 10 ^ power * scale := by
  have hi : (0 : ℚ) < (gridUnits power).1 := by exact_mod_cast gridUnits_fst_pos power
  have hg : 0 < (gridUnits power).2 := by exact_mod_cast gridUnits_snd_pos power
  have h : r.value * (gridUnits power).1 < (point r power + 1) * (gridUnits power).2 := by
    rw [Nat.mul_comm (point r power + 1)]
    exact Nat.lt_mul_div_succ _ hg
  have hq : (r.value : ℚ) * (gridUnits power).1 < (point r power + 1) * (gridUnits power).2 := by
    exact_mod_cast h
  rw [gridUnits_ratio, ← mul_assoc, ← mul_assoc] at hq
  have hlt := lt_of_mul_lt_mul_right hq hi.le
  rwa [add_mul, one_mul, add_mul] at hlt

section Seventeen

variable {m : Magnitude} (hm : m.isZero = false)
include hm

theorem value_pos : 0 < (rounding m).value := by
  have h := below_lt_value hm
  show 0 < 4 * m.significand * 2 ^ m.exponent
  omega

/-- The value is not below the power of ten in front of its leading digit. -/
theorem position_le : (10 : ℚ) ^ ((rounding m).position - 1) * scale ≤ (rounding m).value := by
  have hv := value_pos hm
  set v := (rounding m).value with hvdef
  -- the scaled value keeps at least one digit, as `4` units are above `10 ^ -330`
  have hfour : 4 ≤ v := by
    have hs : 1 ≤ m.significand * 2 ^ m.exponent :=
      Nat.mul_pos (Magnitude.significand_pos hm) (Nat.two_pow_pos _)
    show 4 ≤ 4 * m.significand * 2 ^ m.exponent
    rw [Nat.mul_assoc]; omega
  have hk : 0 < v * 10 ^ 330 / 2 ^ 1076 := by
    have hbig : 2 ^ 1076 ≤ 4 * 10 ^ 330 := by decide +kernel
    have hscaled : 4 * 10 ^ 330 ≤ v * 10 ^ 330 := by
      generalize 10 ^ 330 = unit
      exact Nat.mul_le_mul_right unit hfour
    exact Nat.div_pos (hbig.trans hscaled) (Nat.two_pow_pos 1076)
  have hdigits : (10 ^ (digitCount (v * 10 ^ 330 / 2 ^ 1076) - 1)) * 2 ^ 1076 ≤ v * 10 ^ 330 :=
    (Nat.mul_le_mul_right _ (ten_pow_le_of_digitCount hk)).trans (Nat.div_mul_le_self _ _)
  have hpos : (rounding m).position = digitCount (v * 10 ^ 330 / 2 ^ 1076) - 330 := rfl
  have hc := digitCount_pos (v * 10 ^ 330 / 2 ^ 1076)
  generalize digitCount (v * 10 ^ 330 / 2 ^ 1076) = count at *
  have he : (rounding m).position - 1 = ((count - 1 : ℕ) : ℤ) - ((330 : ℕ) : ℤ) := by omega
  have hq : (10 : ℚ) ^ (count - 1) * scale ≤ v * 10 ^ 330 := by
    have : ((10 ^ (count - 1) * 2 ^ 1076 : ℕ) : ℚ) ≤ ((v * 10 ^ 330 : ℕ) : ℚ) := Nat.cast_le.mpr hdigits
    rwa [cast_mul_scale, Nat.cast_mul, cast_ten_pow, cast_ten_pow 330] at this
  rw [he, zpow_sub₀ (by norm_num), zpow_natCast, zpow_natCast, div_mul_eq_mul_div,
    div_le_iff₀ (by positivity)]
  exact hq

/-- The grid of seventeen digits is finer than the interval above the value, and together with the
part below it wherever that part is not shortened. -/
theorem grid_lt :
    (10 : ℚ) ^ ((rounding m).position - 17) * scale < 4 * 2 ^ m.exponent ∧
      (below m = 2 ^ m.exponent →
        (10 : ℚ) ^ ((rounding m).position - 17) * scale < 2 * 2 ^ m.exponent) := by
  have hle := position_le hm
  have hu : (0 : ℚ) < 2 ^ m.exponent := by positivity
  have hs : (m.significand : ℚ) * 2 ^ m.exponent < 2 ^ 53 * 2 ^ m.exponent :=
    mul_lt_mul_of_pos_right (by exact_mod_cast m.normal.1) hu
  have hsplit : (10 : ℚ) ^ ((rounding m).position - 1) =
      10 ^ ((rounding m).position - 17) * 10 ^ 16 := by
    rw [show (rounding m).position - 1 = (rounding m).position - 17 + ((16 : ℕ) : ℤ) by omega,
      zpow_add₀ (by norm_num), zpow_natCast]
  rw [hsplit, value_rounding, mul_right_comm] at hle
  generalize (10 : ℚ) ^ ((rounding m).position - 17) * scale = grid at *
  constructor
  · norm_num at hle ⊢
    linarith
  · intro hb
    have hs52 : m.significand = 2 ^ 52 := by
      unfold below at hb
      split_ifs at hb with h
      · exact h.1
      · have := Nat.two_pow_pos m.exponent
        omega
    rw [hs52] at hle
    norm_num at hle ⊢
    linarith

/-- One of the two points next to the value lies in its interval. -/
theorem exists_onGrid : ∃ digits, (rounding m).onGrid? ((rounding m).position - 17) = some digits := by
  obtain ⟨hgrid, hgrid'⟩ := grid_lt hm
  generalize (rounding m).position - 17 = power at *
  apply exists_onGrid_of_admits
  obtain ⟨point, hpoint⟩ : ∃ p, p = point (rounding m) power := ⟨_, rfl⟩
  have hlo : (point : ℚ) * 10 ^ power * scale ≤ (rounding m).value := hpoint ▸ point_le _ _
  have hhi : ((rounding m).value : ℚ) < point * 10 ^ power * scale + 10 ^ power * scale :=
    hpoint ▸ lt_point_add _ _
  rw [← hpoint, admits_iff, admits_iff]
  have hu : (0 : ℚ) < 2 * 2 ^ m.exponent := by positivity
  have hg : (10 : ℚ) ^ power * scale < 2 * (2 * 2 ^ m.exponent) := by
    rw [← mul_assoc]; exact hgrid.trans_eq (by norm_num)
  have hnext : ((point + 1 : ℕ) : ℚ) * 10 ^ power * scale =
      point * 10 ^ power * scale + 10 ^ power * scale := by
    rw [Nat.cast_add, Nat.cast_one, add_mul, one_mul, add_mul]
  have hb : (2 : ℚ) * 2 ^ m.exponent ≤ 10 ^ power * scale → (below m : ℚ) = 2 * 2 ^ m.exponent :=
    fun h => (below_eq m).resolve_left fun hb => absurd (hgrid' hb) (not_lt.mpr h)
  rcases point_or_next (low_rounding hm) (high_rounding m) (below_pos m) hu hlo hhi hg hb with h | h
  · exact Or.inl (holds_of_lt h.1 h.2)
  · rw [← hnext] at h
    exact Or.inr (holds_of_lt h.1 h.2)

end Seventeen

/-! ## The search and the digits that are written -/

/-- The search ends on a grid that has a point in the interval, at the latest on the last one. -/
theorem search_holds {r : Rounding} {position : ℤ}
    (h : ∃ digits, r.onGrid? (position - 17) = some digits) :
    ∀ left : ℕ, 0 < left → left ≤ 17 →
      r.Holds ((r.search position left).1 * 10 ^ (r.search position left).2) := by
  intro left
  induction left with
  | zero => intro h0; exact absurd h0 (Nat.lt_irrefl 0)
  | succ left ih =>
    intro _ hle
    unfold Rounding.search
    dsimp only
    cases hg : r.onGrid? (position - ((17 - left : ℕ) : ℤ)) with
    | some digits => exact holds_of_onGrid hg
    | none =>
      rcases Nat.eq_zero_or_pos left with rfl | hpos
      · -- the last grid has a point
        obtain ⟨digits, hd⟩ := h
        rw [Nat.sub_zero] at hg
        rw [show ((17 : ℕ) : ℤ) = 17 from rfl, hd] at hg
        exact nomatch hg
      · exact ih hpos (by omega)

/-- Moving zeros into the power of ten keeps the decimal. -/
theorem dropZeros_value : ∀ (count digits : ℕ) (power : ℤ),
    ((dropZeros count digits power).1 : ℚ) * 10 ^ (dropZeros count digits power).2 =
      digits * 10 ^ power := by
  intro count
  induction count with
  | zero => intro digits power; rfl
  | succ count ih =>
    intro digits power
    unfold dropZeros
    split_ifs with h
    · have hd : (digits : ℚ) = (digits / 10 : ℕ) * 10 := by
        have : digits = digits / 10 * 10 := by omega
        exact_mod_cast this
      rw [ih, hd, zpow_add₀ (by norm_num), zpow_one]
      ring
    · rfl

/-- **The digits that are written lie in the interval of their magnitude.** -/
theorem shortest_holds {m : Magnitude} (hm : m.isZero = false) :
    (rounding m).Holds ((shortest m).1 * 10 ^ (shortest m).2) := by
  have hvalue : ((shortest m).1 : ℚ) * 10 ^ (shortest m).2 =
      ((rounding m).search (rounding m).position 17).1 *
        10 ^ ((rounding m).search (rounding m).position 17).2 := dropZeros_value 17 _ _
  rw [hvalue]
  exact search_holds (exists_onGrid hm) 17 (by decide) (Nat.le_refl 17)

/-! ## Decimals of the interval are read as the magnitude -/

theorem one_le_low {m : Magnitude} (hm : m.isZero = false) : (1 : ℚ) ≤ (rounding m).low := by
  have hpos : 1 ≤ (rounding m).low := Nat.sub_pos_of_lt (below_lt_value hm)
  exact_mod_cast hpos

theorem scale_le : scale ≤ 10 ^ 400 := by
  have hbig : 2 ^ 1076 ≤ 10 ^ 400 := by decide +kernel
  have hcast : ((2 ^ 1076 : ℕ) : ℚ) ≤ ((10 ^ 400 : ℕ) : ℚ) := Nat.cast_le.mpr hbig
  rwa [cast_scale, cast_ten_pow 400] at hcast

/-- The interval of the largest magnitude ends far below the powers of ten that are cut off. -/
theorem high_lt (m : Magnitude) : ((rounding m).high : ℚ) < 10 ^ 400 * scale := by
  have hs : m.significand + 1 ≤ 2 ^ 53 := m.normal.1
  have hmono : ∀ k, m.exponent ≤ k → 2 ^ m.exponent ≤ 2 ^ k :=
    fun k hk => Nat.pow_le_pow_right (by decide) hk
  have he : 2 ^ m.exponent ≤ 2 ^ 2045 := hmono 2045 m.normal.2.1
  have hle : 4 * m.significand * 2 ^ m.exponent + 2 * 2 ^ m.exponent ≤ 2 ^ 56 * 2 ^ 2045 := by
    rw [← Nat.add_mul]
    generalize 2 ^ 2045 = top at he ⊢
    exact Nat.mul_le_mul (by omega) he
  have hbig : 2 ^ 56 * 2 ^ 2045 < 10 ^ 400 * 2 ^ 1076 := by decide +kernel
  rw [← cast_ten_pow, ← cast_mul_scale]
  exact Nat.cast_lt.mpr (lt_of_le_of_lt hle hbig)

section OfDecimal

variable {m : Magnitude} (hm : m.isZero = false) {digits : ℕ} {power : ℤ}
  (h : (rounding m).Holds (digits * 10 ^ power))
include hm h

theorem digits_pos_of_holds : 0 < digits := by
  rcases Nat.eq_zero_or_pos digits with rfl | hpos
  · have hzero := (one_le_low hm).trans h.1
    norm_num at hzero
  · exact hpos

/-- The leading digit stands near enough to the point for the fraction to be formed. -/
theorem position_bounds : -400 ≤ digitCount digits + power ∧ digitCount digits + power ≤ 400 := by
  obtain ⟨hlo, hhi⟩ := decimal_bounds (digits_pos_of_holds hm h) power
  have h10 : (1 : ℚ) ≤ 10 := by norm_num
  constructor
  · by_contra hc
    have hz : (10 : ℚ) ^ (digitCount digits + power) ≤ 10 ^ (-(400 : ℕ) : ℤ) :=
      zpow_le_zpow_right₀ h10 (by omega)
    rw [zpow_neg, zpow_natCast] at hz
    have hx : (digits : ℚ) * 10 ^ power * scale < (10 ^ 400)⁻¹ * 10 ^ 400 :=
      mul_lt_mul (hhi.trans_le hz) scale_le scale_pos (by positivity)
    rw [inv_mul_cancel₀ (by positivity)] at hx
    exact absurd ((one_le_low hm).trans h.1) (not_le.mpr hx)
  · by_contra hc
    have hz : (10 : ℚ) ^ 400 ≤ 10 ^ (digitCount digits + power - 1) := by
      rw [← zpow_natCast]; exact zpow_le_zpow_right₀ h10 (by omega)
    have hx : (10 : ℚ) ^ 400 * scale ≤ digits * 10 ^ power * scale :=
      mul_le_mul_of_nonneg_right (hz.trans hlo) scale_pos.le
    exact absurd (hx.trans h.2.1) (not_le.mpr (high_lt m))

/-- **Decimals of the interval read as the magnitude.** -/
theorem ofDecimal_of_holds (negative : Bool) : ofDecimal negative digits power = .finite negative m := by
  obtain ⟨hlo, hhi⟩ := position_bounds hm h
  have hpos := digits_pos_of_holds hm h
  unfold ofDecimal
  dsimp only
  rw [if_neg (by omega), if_neg (by omega)]
  split_ifs with hp
  · obtain ⟨n, rfl⟩ := Int.eq_ofNat_of_zero_le hp
    have hx : (digits : ℚ) * 10 ^ (n : ℤ) = ((digits * 10 ^ n : ℕ) : ℚ) / (1 : ℕ) := by
      rw [zpow_natCast]; push_cast; rw [div_one]
    rw [hx] at h
    rw [Int.toNat_natCast]
    exact ofRatio_of_holds hm Nat.one_pos negative h
  · obtain ⟨n, hn⟩ := Int.eq_ofNat_of_zero_le (show 0 ≤ -power by omega)
    obtain rfl : power = -(n : ℤ) := by omega
    have hx : (digits : ℚ) * 10 ^ (-(n : ℤ)) = (digits : ℚ) / ((10 ^ n : ℕ) : ℚ) := by
      rw [zpow_neg, zpow_natCast]; push_cast; rw [div_eq_mul_inv]
    rw [hx] at h
    rw [show (-(-(n : ℤ))).toNat = n by omega]
    exact ofRatio_of_holds hm (Nat.pow_pos (by decide)) negative h

end OfDecimal

end LogQuery.Number
