import LogQuery.Number.Shortest
import Mathlib.Algebra.Order.Field.Rat
import Mathlib.Tactic.Linarith
import Mathlib.Tactic.NormNum
import Mathlib.Tactic.Qify
import Mathlib.Tactic.FieldSimp
import Mathlib.Tactic.Ring

/-!
# Proofs.Number.Nearest — fractions that round to a magnitude

`Rounding.Holds r x` says that the fraction `x` lies in the interval `r`, counted in units of
`2 ^ -1076`.

* `roundEven_eq`: a quotient at most half a unit from `s`, and closer if `s` is odd, rounds to `s`.
* `ofRatio?_of_holds`: every fraction in the interval of a magnitude rounds to that magnitude.  Below
  a power of two the interval reaches into the binade below; there the quotient rounds up to the
  full `2 ^ 53`.
-/

namespace LogQuery

/-! ## Rounding a quotient -/

namespace Magnitude

theorem roundEven_eq {num den s : ℕ} (hden : 0 < den) (hlo : 2 * (s * den) ≤ 2 * num + den)
    (hhi : 2 * num ≤ 2 * (s * den) + den)
    (hodd : s % 2 = 1 → 2 * (s * den) < 2 * num + den ∧ 2 * num < 2 * (s * den) + den) :
    roundEven num den = s := by
  have hdiv : den * (num / den) + num % den = num := Nat.div_add_mod num den
  have hrem : num % den < den := Nat.mod_lt _ hden
  unfold roundEven
  generalize num / den = q at *
  generalize num % den = rem at *
  -- the quotient is `s` or the number below it
  have hle : q ≤ s := by
    by_contra hc
    have := Nat.mul_le_mul_left den (show s + 1 ≤ q by omega)
    rw [Nat.mul_add, Nat.mul_comm den s] at this
    omega
  have hge : s ≤ q + 1 := by
    by_contra hc
    have := Nat.mul_le_mul_left den (show q + 2 ≤ s by omega)
    rw [Nat.mul_add, Nat.mul_comm den s] at this
    omega
  rcases Nat.lt_or_ge q s with hlt | hsq
  · obtain rfl : s = q + 1 := by omega
    have he : (q + 1) * den = den * q + den := by ring
    rw [he] at hlo hhi hodd
    dsimp only
    split_ifs <;> omega
  · obtain rfl : s = q := by omega
    rw [Nat.mul_comm s den] at hlo hhi hodd
    dsimp only
    split_ifs <;> omega

theorem ofParts?_self (m : Magnitude) : ofParts? m.significand m.exponent = some m := by
  unfold ofParts?
  rw [dif_pos m.normal]

theorem significand_pos {m : Magnitude} (h : m.isZero = false) : 0 < m.significand := by
  have : m.significand ≠ 0 := by simpa [isZero] using h
  omega

end Magnitude

/-! ## The interval of a magnitude -/

namespace Number

/-- How many units of an interval make one. -/
def scale : ℚ := 2 ^ 1076

theorem scale_pos : 0 < scale := pow_pos (by norm_num) _

theorem cast_two_pow (k : ℕ) : ((2 ^ k : ℕ) : ℚ) = 2 ^ k := Nat.cast_pow 2 k

theorem cast_ten_pow (k : ℕ) : ((10 ^ k : ℕ) : ℚ) = 10 ^ k := Nat.cast_pow 10 k

theorem cast_scale : ((2 ^ 1076 : ℕ) : ℚ) = scale := cast_two_pow 1076

theorem cast_mul_scale (a : ℕ) : ((a * 2 ^ 1076 : ℕ) : ℚ) = a * scale := by
  rw [Nat.cast_mul, cast_scale]

/-- Whether the fraction `x` lies in the interval. -/
def Rounding.Holds (r : Rounding) (x : ℚ) : Prop :=
  (r.low : ℚ) ≤ x * scale ∧ x * scale ≤ r.high ∧
    (r.closed = false → (r.low : ℚ) < x * scale ∧ x * scale < r.high)

/-- The distance from a magnitude to the lower end of its interval. -/
def below (m : Magnitude) : ℕ :=
  if m.significand = 2 ^ 52 ∧ 0 < m.exponent then 2 ^ m.exponent else 2 * 2 ^ m.exponent

theorem below_le (m : Magnitude) : below m ≤ 2 * 2 ^ m.exponent := by
  unfold below
  split_ifs <;> omega

theorem below_lt_value {m : Magnitude} (hm : m.isZero = false) :
    below m < 4 * m.significand * 2 ^ m.exponent := by
  have hs := Magnitude.significand_pos hm
  have hb := below_le m
  have hu : 0 < 2 ^ m.exponent := Nat.two_pow_pos _
  have : 1 * 2 ^ m.exponent ≤ m.significand * 2 ^ m.exponent := Nat.mul_le_mul_right _ hs
  rw [Nat.mul_assoc]
  omega

theorem value_rounding (m : Magnitude) :
    ((rounding m).value : ℚ) = 4 * (m.significand * 2 ^ m.exponent) := by
  show ((4 * m.significand * 2 ^ m.exponent : ℕ) : ℚ) = _
  push_cast; ring

theorem low_rounding {m : Magnitude} (hm : m.isZero = false) :
    ((rounding m).low : ℚ) = (rounding m).value - below m :=
  Nat.cast_sub (below_lt_value hm).le

theorem high_rounding (m : Magnitude) :
    ((rounding m).high : ℚ) = (rounding m).value + 2 * 2 ^ m.exponent := by
  show (((rounding m).value + 2 * 2 ^ m.exponent : ℕ) : ℚ) = _
  push_cast; ring

/-- The interval in natural numbers: four times the scaled numerator against the bounds. -/
theorem holds_ratio {m : Magnitude} (hm : m.isZero = false) {num den scaled : ℕ} (hden : 0 < den)
    (hsc : scaled = num * 2 ^ 1074) (h : (rounding m).Holds (num / den)) :
    4 * (m.significand * 2 ^ m.exponent * den) ≤ 4 * scaled + below m * den ∧
      4 * scaled ≤ 4 * (m.significand * 2 ^ m.exponent * den) + 2 * (2 ^ m.exponent * den) ∧
      (m.significand % 2 = 1 →
        4 * (m.significand * 2 ^ m.exponent * den) < 4 * scaled + below m * den ∧
        4 * scaled < 4 * (m.significand * 2 ^ m.exponent * den) + 2 * (2 ^ m.exponent * den)) := by
  have hd : (0 : ℚ) < den := by exact_mod_cast hden
  have hlow := low_rounding hm
  have hhigh := high_rounding m
  rw [value_rounding] at hlow hhigh
  have hx : (num / den : ℚ) * scale = 4 * scaled / den := by
    have hq : (scaled : ℚ) = num * 2 ^ 1074 := by rw [hsc, Nat.cast_mul, cast_two_pow 1074]
    rw [hq, scale, show 1076 = 2 + 1074 from rfl, pow_add]
    generalize (2 : ℚ) ^ 1074 = unit
    ring
  obtain ⟨h1, h2, h3⟩ := h
  rw [hx, hlow, le_div_iff₀ hd] at h1
  rw [hx, hhigh, div_le_iff₀ hd] at h2
  rw [hx, hlow, hhigh, lt_div_iff₀ hd, div_lt_iff₀ hd] at h3
  refine ⟨?_, ?_, fun hodd => ?_⟩
  · qify; linarith
  · qify; linarith
  · have hc : (rounding m).closed = false := by
      show (m.significand % 2 == 0) = false
      rw [hodd]; rfl
    obtain ⟨h4, h5⟩ := h3 hc
    constructor <;> qify <;> linarith

/-! ## Every fraction of the interval rounds to the magnitude -/

/-- The fraction lies in the binade of the magnitude, or the exponent is least. -/
theorem ofRatio?_of_exponent {m : Magnitude} (hm : m.isZero = false) {num den : ℕ} (hden : 0 < den)
    (h : (rounding m).Holds (num / den))
    (he : Nat.log2 (num * 2 ^ 1074 / den) - 52 = m.exponent) :
    Magnitude.ofRatio? num den = some m := by
  obtain ⟨hlo, hhi, hodd⟩ := holds_ratio hm hden rfl h
  have hb : below m * den ≤ 2 * (2 ^ m.exponent * den) := by
    rw [← Nat.mul_assoc]; exact Nat.mul_le_mul_right _ (below_le m)
  have hround : Magnitude.roundEven (num * 2 ^ 1074) (den * 2 ^ m.exponent) = m.significand := by
    have hw : m.significand * (den * 2 ^ m.exponent) = m.significand * 2 ^ m.exponent * den := by ring
    have hu : den * 2 ^ m.exponent = 2 ^ m.exponent * den := Nat.mul_comm _ _
    refine Magnitude.roundEven_eq (Nat.mul_pos hden (Nat.two_pow_pos _)) ?_ ?_ fun ho => ?_
    · rw [hw, hu]; omega
    · rw [hw, hu]; omega
    · have := hodd ho
      rw [hw, hu]; omega
  unfold Magnitude.ofRatio?
  simp only [he, hround]
  rw [if_pos m.normal.1]
  exact Magnitude.ofParts?_self m

/-- The exponent of the binade in which a quotient lies. -/
theorem log2_sub_of_binade {q e : ℕ} (hlo : 2 ^ (52 + e) ≤ q) (hhi : q < 2 ^ (53 + e)) : Nat.log2 q - 52 = e := by
  have hne : q ≠ 0 := by
    have hpos := Nat.two_pow_pos (52 + e)
    omega
  have hlog : Nat.log2 q = 52 + e :=
    (Nat.log2_eq_iff hne).mpr ⟨hlo, by rwa [show 52 + e + 1 = 53 + e by omega]⟩
  omega

/-- Only the least full significand has an interval that reaches below its binade. -/
theorem significand_of_lt {m : Magnitude} (hm : m.isZero = false) {num den : ℕ} (hden : 0 < den)
    (h : (rounding m).Holds (num / den)) (he : 0 < m.exponent)
    (hnum : num * 2 ^ 1074 < 2 ^ 52 * (2 ^ m.exponent * den)) : m.significand = 2 ^ 52 := by
  obtain ⟨hlo, -, -⟩ := holds_ratio hm hden rfl h
  have hfull : 2 ^ 52 ≤ m.significand := m.normal.2.2.resolve_left (by omega)
  by_contra hne
  have hb : below m * den ≤ 2 * (2 ^ m.exponent * den) := by
    rw [← Nat.mul_assoc]
    exact Nat.mul_le_mul_right _ (below_le m)
  have hmore := Nat.mul_le_mul_right (2 ^ m.exponent * den) (show 2 ^ 52 + 1 ≤ m.significand by omega)
  rw [Nat.mul_assoc] at hlo
  omega

/-- The fraction lies below a magnitude that is a power of two. -/
theorem ofRatio?_of_lt {m : Magnitude} (hm : m.isZero = false) {num den : ℕ} (hden : 0 < den)
    (h : (rounding m).Holds (num / den)) (he : 0 < m.exponent)
    (hlt : num * 2 ^ 1074 / den < 2 ^ (52 + m.exponent)) :
    Magnitude.ofRatio? num den = some m := by
  obtain ⟨hlo, hhi, -⟩ := holds_ratio hm hden rfl h
  have hnum : num * 2 ^ 1074 < 2 ^ (52 + m.exponent) * den := (Nat.div_lt_iff_lt_mul hden).mp hlt
  rw [Nat.pow_add, Nat.mul_assoc] at hnum
  have hs : m.significand = 2 ^ 52 := significand_of_lt hm hden h he hnum
  have hb : below m = 2 ^ m.exponent := by unfold below; rw [if_pos ⟨hs, he⟩]
  obtain ⟨e, hee⟩ : ∃ e, m.exponent = e + 1 := ⟨m.exponent - 1, by omega⟩
  rw [hb, hs, hee, pow_succ 2 e] at hlo
  rw [hee, pow_succ 2 e] at hnum
  have hw : 0 < den * 2 ^ e := Nat.mul_pos hden (Nat.two_pow_pos _)
  have hA : 2 ^ 52 * (2 ^ e * 2) * den = 2 ^ 53 * (den * 2 ^ e) := by ring
  have hB : 2 ^ e * 2 * den = 2 * (den * 2 ^ e) := by ring
  have hC : 2 ^ 52 * (2 ^ e * 2 * den) = 2 ^ 53 * (den * 2 ^ e) := by ring
  rw [hA, hB] at hlo
  rw [hC] at hnum
  have hlog : Nat.log2 (num * 2 ^ 1074 / den) - 52 = e := by
    rw [hee, show 52 + (e + 1) = 53 + e by omega] at hlt
    refine log2_sub_of_binade ?_ hlt
    rw [Nat.le_div_iff_mul_le hden, Nat.pow_add, Nat.mul_assoc, Nat.mul_comm (2 ^ e)]
    omega
  have hround : Magnitude.roundEven (num * 2 ^ 1074) (den * 2 ^ e) = 2 ^ 53 :=
    Magnitude.roundEven_eq hw (by omega) (by omega) fun ho => absurd ho (by decide)
  unfold Magnitude.ofRatio?
  simp only [hlog, hround]
  rw [if_neg (by decide), ← hs, ← hee]
  exact Magnitude.ofParts?_self m

/-- **Fractions of the interval read as the magnitude.** -/
theorem ofRatio?_of_holds {m : Magnitude} (hm : m.isZero = false) {num den : ℕ} (hden : 0 < den)
    (h : (rounding m).Holds (num / den)) : Magnitude.ofRatio? num den = some m := by
  obtain ⟨-, hhi, -⟩ := holds_ratio hm hden rfl h
  -- the quotient is below the next binade
  have hup : num * 2 ^ 1074 / den < 2 ^ (53 + m.exponent) := by
    have hs := Nat.mul_le_mul_right (2 ^ m.exponent * den)
      (show m.significand + 1 ≤ 2 ^ 53 from m.normal.1)
    rw [Nat.add_mul, Nat.one_mul] at hs
    have hw : 0 < 2 ^ m.exponent * den := Nat.mul_pos (Nat.two_pow_pos _) hden
    rw [Nat.div_lt_iff_lt_mul hden, Nat.pow_add, Nat.mul_assoc]
    rw [Nat.mul_assoc] at hhi
    omega
  by_cases he : m.exponent = 0
  · refine ofRatio?_of_exponent hm hden h ?_
    rw [he] at hup ⊢
    rcases Nat.eq_zero_or_pos (num * 2 ^ 1074 / den) with h0 | hpos
    · rw [h0]; rfl
    · have := (Nat.log2_lt (by omega)).mpr hup
      omega
  · rcases Nat.lt_or_ge (num * 2 ^ 1074 / den) (2 ^ (52 + m.exponent)) with hlt | hge
    · exact ofRatio?_of_lt hm hden h (by omega) hlt
    · exact ofRatio?_of_exponent hm hden h (log2_sub_of_binade hge hup)

theorem ofRatio_of_holds {m : Magnitude} (hm : m.isZero = false) {num den : ℕ} (hden : 0 < den)
    (negative : Bool) (h : (rounding m).Holds (num / den)) :
    ofRatio negative num den = .finite negative m := by
  unfold ofRatio
  rw [ofRatio?_of_holds hm hden h]
  rfl

end Number

end LogQuery
