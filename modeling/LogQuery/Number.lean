import LogQuery.Power

/-!
# Number — double-precision numbers

A number is a NaN, an infinity, or a sign with a magnitude `significand * 2 ^ exponent`, counted in
units of `2 ^ -1074`, the least positive number. The representation of a magnitude is unique, and
all arithmetic on it is exact arithmetic on natural numbers.

* `Number.compare?` orders numbers by value: both zeros are equal and a NaN is unordered.
* `Number.ofRatio` rounds a fraction to the nearest number, a tie to the even significand.
* `Number.toBits`, `Number.ofBits`: the interchange form of 64 bits.
-/

namespace LogQuery

/-- A finite magnitude: `significand * 2 ^ exponent` units of `2 ^ -1074`. Either the exponent is
least or the significand has all its 53 bits, so that equal magnitudes have equal parts. -/
structure Magnitude where
  significand : Nat
  exponent : Nat
  normal : significand < 2 ^ 53 ∧ exponent ≤ 2045 ∧ (exponent = 0 ∨ 2 ^ 52 ≤ significand)
  deriving DecidableEq

namespace Magnitude

/-- The value in units of `2 ^ -1074`. -/
def units (m : Magnitude) : Nat := m.significand * 2 ^ m.exponent

/-- The magnitude of the two zeros. -/
def zero : Magnitude := ⟨0, 0, by decide⟩

/-- Whether the magnitude is that of the zeros. -/
def isZero (m : Magnitude) : Bool := m.significand == 0

/-- The magnitude with these parts, if they are the parts of one. -/
def ofParts? (significand exponent : Nat) : Option Magnitude :=
  if h : significand < 2 ^ 53 ∧ exponent ≤ 2045 ∧ (exponent = 0 ∨ 2 ^ 52 ≤ significand) then
    some ⟨significand, exponent, h⟩
  else none

/-- The quotient rounded to the nearest natural number, a tie to the even one. -/
def roundEven (num den : Nat) : Nat :=
  let q := num / den
  let twice := 2 * (num % den)
  if twice < den then q else if den < twice then q + 1 else q + q % 2

/-- The magnitude nearest to `num / den`, a tie to the even significand; none if that is too
large. -/
def ofRatio? (num den : Nat) : Option Magnitude :=
  let scaled := num * 2 ^ 1074
  let exponent := Nat.log2 (scaled / den) - 52
  let significand := roundEven scaled (den * 2 ^ exponent)
  if significand < 2 ^ 53 then ofParts? significand exponent
  else ofParts? (2 ^ 52) (exponent + 1)

end Magnitude

/-- A double-precision number. -/
inductive Number where
  | nan
  | infinite (negative : Bool)
  | finite (negative : Bool) (magnitude : Magnitude)
  deriving DecidableEq

namespace Number

/-- Positive zero. -/
def zero : Number := .finite false .zero

/-- The value of a finite number in units of `2 ^ -1074`. -/
def signedUnits (negative : Bool) (m : Magnitude) : Int :=
  if negative then -(m.units : Int) else m.units

/-- Order by value: none beside a NaN, and the two zeros are equal. -/
def compare? : Number → Number → Option Ordering
  | .nan, _ => none
  | _, .nan => none
  | .infinite a, .infinite b => some (compare b.toNat a.toNat)
  | .infinite a, .finite _ _ => some (if a then .lt else .gt)
  | .finite _ _, .infinite b => some (if b then .gt else .lt)
  | .finite a m, .finite b n => some (compare (signedUnits a m) (signedUnits b n))

/-- Equality of values: a NaN differs from itself, the two zeros are equal. -/
def equals (a b : Number) : Bool := a.compare? b == some .eq

/-- The number nearest to the fraction, with the given sign. -/
def ofRatio (negative : Bool) (num den : Nat) : Number :=
  (Magnitude.ofRatio? num den).elim (.infinite negative) (.finite negative)

/-- The number nearest to an integer. -/
def ofInt (i : Int) : Number := ofRatio (decide (i < 0)) i.natAbs 1

/-- How many decimal digits a natural number has. -/
def digitCount (n : Nat) : Nat := (Nat.toDigits 10 n).length

/-- The number nearest to `digits * 10 ^ exponent`. Powers far outside the range of the numbers are
decided by the position of the leading digit. -/
def ofDecimal (negative : Bool) (digits : Nat) (exponent : Int) : Number :=
  let position := digitCount digits + exponent
  if digits = 0 ∨ position < -400 then .finite negative .zero
  else if 400 < position then .infinite negative
  else if 0 ≤ exponent then ofRatio negative (digits * 10 ^ exponent.toNat) 1
  else ofRatio negative digits (10 ^ (-exponent).toNat)

/-- The 64 bits of a number: sign, exponent, fraction. A NaN has the quiet bit alone. -/
def toBits : Number → Nat
  | .nan => 0x7ff8000000000000
  | .infinite negative => negative.toNat * 2 ^ 63 + 0x7ff0000000000000
  | .finite negative m =>
    let magnitude :=
      if m.significand < 2 ^ 52 then m.significand
      else (m.exponent + 1) * 2 ^ 52 + (m.significand - 2 ^ 52)
    negative.toNat * 2 ^ 63 + magnitude

/-- The number with these 64 bits. -/
def ofBits (bits : Nat) : Number :=
  let negative := bits / 2 ^ 63 % 2 == 1
  let exponent := bits / 2 ^ 52 % 2 ^ 11
  let fraction := bits % 2 ^ 52
  if exponent = 0x7ff then (if fraction = 0 then .infinite negative else .nan)
  else
    let parts := if exponent = 0 then (fraction, 0) else (fraction + 2 ^ 52, exponent - 1)
    match Magnitude.ofParts? parts.1 parts.2 with
    | some m => .finite negative m
    | none => .nan

end Number

end LogQuery
