import Mathlib
import DocQuery.Decimal.Shortest
import DocQuery.Proofs.Decimal.Rounding

/-!
# The Digits Chosen for a Magnitude

The decimal that is written for a magnitude lies in the interval of numbers that are rounded to
the magnitude.  For this it does not matter that the decimal is a short one, only that one is found
at all: a grid of seventeen digits is finer than the interval is wide, so that one of the two
neighbours on this grid lies in the interval.

## Main definitions

- `Scientific.value`: the number that a decimal stands for

## Main statements

- `catches_shortest`: the decimal chosen for a magnitude is rounded to it
- `le_exponent_shortest`: its last digit is not too far behind the point
-/

namespace DocQuery.Decimal

open Float64 (leadingBit)

/-- The number that a decimal stands for. -/
def Scientific.value (d : Scientific) : ℚ := d.coefficient * 10 ^ d.exponent

theorem ten_zpow_pos (e : ℤ) : (0 : ℚ) < 10 ^ e := zpow_pos (by norm_num) e

/-- A power with a whole exponent, as a quotient of powers with natural exponents. -/
theorem pow_toNat_div (b : Nat) (k : ℤ) :
    ((Nat.pow b k.toNat : ℕ) : ℚ) / (Nat.pow b (-k).toNat : ℕ) = (b : ℚ) ^ k := by
  obtain ⟨n, rfl | rfl⟩ := k.eq_nat_or_neg
  · simp
  · simp

namespace Interval

variable {m : Magnitude}

/-! ## The ends of the interval -/

theorem unit_around_pos (m : Magnitude) : 0 < (around m).unit := Nat.pow_pos (by decide)

/-- A quarter of the distance between neighbours, in units of the interval. -/
theorem factor_div_unit (m : Magnitude) :
    ((Nat.pow 2 (m.exponent - 2).toNat : ℕ) : ℚ) / (around m).unit = 2 ^ m.exponent / 4 := by
  have hunit : (around m).unit = Nat.pow 2 (-(m.exponent - 2)).toNat := by
    show Nat.pow 2 (2 - m.exponent).toNat = _
    rw [neg_sub]
  rw [hunit, pow_toNat_div 2, Nat.cast_ofNat, zpow_sub₀ (by norm_num)]
  norm_num

theorem middle_div_unit (m : Magnitude) : ((around m).middle : ℚ) / (around m).unit = m.value := by
  have hfactor := factor_div_unit m
  have hmiddle : ((around m).middle : ℚ) =
      4 * m.mantissa * (Nat.pow 2 (m.exponent - 2).toNat : ℕ) := by
    simp only [around]
    push_cast
    ring
  rw [hmiddle, mul_div_assoc, hfactor, Magnitude.value]
  ring

theorem high_div_unit (m : Magnitude) :
    ((around m).high : ℚ) / (around m).unit = (m.mantissa + 1 / 2) * 2 ^ m.exponent := by
  have hfactor := factor_div_unit m
  have hhigh : ((around m).high : ℚ) =
      (4 * m.mantissa + 2) * (Nat.pow 2 (m.exponent - 2).toNat : ℕ) := by
    simp only [around]
    push_cast
    ring
  rw [hhigh, mul_div_assoc, hfactor]
  ring

theorem low_div_unit (hpos : 0 < m.mantissa) :
    ((around m).low : ℚ) / (around m).unit = (m.mantissa - m.gapBelow) * 2 ^ m.exponent := by
  have hfactor := factor_div_unit m
  have hlow : ((around m).low : ℚ) =
      (4 * m.mantissa - 4 * m.gapBelow) * (Nat.pow 2 (m.exponent - 2).toNat : ℕ) := by
    simp only [around, Magnitude.gapBelow]
    split
    · rw [Nat.cast_mul, Nat.cast_sub (by omega)]
      push_cast
      ring
    · rw [Nat.cast_mul, Nat.cast_sub (by omega)]
      push_cast
      ring
  rw [hlow, mul_div_assoc, hfactor]
  ring

/-! ## Decimals in the interval -/

/-- A decimal is compared with an end of the interval after both have been multiplied by the
same powers of ten. -/
theorem point_eq (i : Interval) (d : Scientific) :
    ((d.coefficient * Nat.pow 10 d.exponent.toNat * i.unit : ℕ) : ℚ) =
      d.value * i.unit * (Nat.pow 10 (-d.exponent).toNat : ℕ) := by
  have hpow := pow_toNat_div 10 d.exponent
  have hshift : (0 : ℚ) < (Nat.pow 10 (-d.exponent).toNat : ℕ) := by
    exact_mod_cast Nat.pow_pos (by decide)
  rw [div_eq_iff hshift.ne'] at hpow
  rw [Nat.cast_mul, Nat.cast_mul, hpow, Scientific.value]
  push_cast
  ring

theorem le_point_iff {i : Interval} (hunit : 0 < i.unit) (a : Nat) (d : Scientific) :
    a * Nat.pow 10 (-d.exponent).toNat ≤ d.coefficient * Nat.pow 10 d.exponent.toNat * i.unit ↔
      (a / i.unit : ℚ) ≤ d.value := by
  have hunit' : (0 : ℚ) < i.unit := by exact_mod_cast hunit
  have hshift : (0 : ℚ) < (Nat.pow 10 (-d.exponent).toNat : ℕ) := by
    exact_mod_cast Nat.pow_pos (by decide)
  rw [← Nat.cast_le (α := ℚ), point_eq, Nat.cast_mul, mul_le_mul_iff_left₀ hshift,
    div_le_iff₀ hunit']

theorem point_le_iff {i : Interval} (hunit : 0 < i.unit) (a : Nat) (d : Scientific) :
    d.coefficient * Nat.pow 10 d.exponent.toNat * i.unit ≤ a * Nat.pow 10 (-d.exponent).toNat ↔
      d.value ≤ a / i.unit := by
  have hunit' : (0 : ℚ) < i.unit := by exact_mod_cast hunit
  have hshift : (0 : ℚ) < (Nat.pow 10 (-d.exponent).toNat : ℕ) := by
    exact_mod_cast Nat.pow_pos (by decide)
  rw [← Nat.cast_le (α := ℚ), point_eq, Nat.cast_mul, mul_le_mul_iff_left₀ hshift,
    le_div_iff₀ hunit']

/-- The interval of a magnitude holds exactly the decimals that are rounded to it. -/
theorem holds_around_iff (hpos : 0 < m.mantissa) (d : Scientific) :
    (around m).holds d = true ↔ m.Catches d.value := by
  have hunit := unit_around_pos m
  have hclosed : (around m).closed = true ↔ m.mantissa % 2 = 0 := beq_iff_eq
  unfold holds
  dsimp only
  split
  · next heven =>
    -- an even mantissa catches its ends
    rw [hclosed] at heven
    rw [Bool.and_eq_true, decide_eq_true_iff, decide_eq_true_iff, le_point_iff hunit,
      point_le_iff hunit, low_div_unit hpos, high_div_unit]
    constructor
    · rintro ⟨hlow, hhigh⟩
      exact ⟨hlow, hhigh, fun _ => heven⟩
    · intro hcatch
      exact ⟨hcatch.low, hcatch.high⟩
  · next hodd =>
    -- an odd one does not
    rw [hclosed] at hodd
    rw [Bool.and_eq_true, decide_eq_true_iff, decide_eq_true_iff, ← not_le, ← not_le,
      le_point_iff hunit, point_le_iff hunit, low_div_unit hpos, high_div_unit, not_le, not_le]
    constructor
    · rintro ⟨hlow, hhigh⟩
      refine ⟨hlow.le, hhigh.le, ?_⟩
      rintro (heq | heq)
      · exact absurd heq hlow.ne'
      · exact absurd heq hhigh.ne
    · intro hcatch
      exact ⟨lt_of_le_of_ne hcatch.low fun heq => hodd (hcatch.ends (.inl heq.symm)),
        lt_of_le_of_ne hcatch.high fun heq => hodd (hcatch.ends (.inr heq))⟩

/-! ## The grid -/

/-- The middle lies between its two neighbours on a grid. -/
theorem floorOn_around (m : Magnitude) (e : ℤ) :
    ((around m).floorOn e).value ≤ m.value ∧
      m.value < (Scientific.mk (((around m).floorOn e).coefficient + 1) e).value := by
  have hunit : (0 : ℚ) < (around m).unit := by exact_mod_cast unit_around_pos m
  have hpow := pow_toNat_div 10 e
  have hten : (0 : ℚ) < (Nat.pow 10 e.toNat : ℕ) := by exact_mod_cast Nat.pow_pos (by decide)
  have hshift : (0 : ℚ) < (Nat.pow 10 (-e).toNat : ℕ) := by exact_mod_cast Nat.pow_pos (by decide)
  have hscaled : (((around m).middle * Nat.pow 10 (-e).toNat : ℕ) : ℚ) /
      ((around m).unit * Nat.pow 10 e.toNat : ℕ) = m.value / 10 ^ e := by
    rw [← middle_div_unit, show (10 : ℚ) ^ e = ((10 : ℕ) : ℚ) ^ e by norm_num, ← hpow]
    push_cast
    field_simp
  have hfloor : ((around m).floorOn e).coefficient = ⌊m.value / 10 ^ e⌋₊ := by
    rw [← hscaled, Nat.floor_div_eq_div]
    rfl
  have hexponent : ((around m).floorOn e).exponent = e := rfl
  have hvalue : (0 : ℚ) ≤ m.value / 10 ^ e := by
    rw [← hscaled]
    positivity
  constructor
  · rw [Scientific.value, hexponent, hfloor, ← le_div_iff₀ (ten_zpow_pos e)]
    exact Nat.floor_le hvalue
  · rw [Scientific.value, hfloor, ← div_lt_iff₀ (ten_zpow_pos e)]
    push_cast
    exact Nat.lt_floor_add_one _

/-! ## The first digit -/

/-- As long as multiplying by ten has not reached the denominator, it goes on. -/
theorem leadingZeros_spec (limit num den : Nat) :
    (leadingZeros limit num den < limit → den ≤ num * 10 ^ (leadingZeros limit num den + 1)) ∧
      (leadingZeros limit num den ≠ 0 → num * 10 ^ leadingZeros limit num den < den) := by
  induction limit generalizing num with
  | zero => simp [leadingZeros]
  | succ limit ih =>
    rw [leadingZeros]
    split
    · next hle => simpa using hle
    · next hlt =>
      obtain ⟨hend, hbelow⟩ := ih (num * 10)
      constructor
      · intro hlimit
        rw [Nat.pow_succ', ← Nat.mul_assoc]
        exact hend (by omega)
      · intro _
        rw [Nat.pow_succ', ← Nat.mul_assoc]
        by_cases hzero : leadingZeros limit (num * 10) den = 0
        · rw [hzero, Nat.pow_zero, Nat.mul_one]
          exact Nat.not_le.mp hlt
        · exact hbelow hzero

/-- No magnitude is so small that more than 324 zeros stand before its first digit. -/
theorem leadingZeros_around_lt (hfits : m.Fits) (hpos : 0 < m.mantissa) :
    leadingZeros 400 (around m).middle (around m).unit < 324 := by
  by_cases hzero : leadingZeros 400 (around m).middle (around m).unit = 0
  · omega
  · have hbelow := (leadingZeros_spec 400 (around m).middle (around m).unit).2 hzero
    have hmiddle : 1 ≤ (around m).middle := Nat.mul_pos (by omega) (Nat.pow_pos (by decide))
    have hunit : (around m).unit ≤ 2 ^ 1076 := by
      apply Nat.pow_le_pow_right (by decide)
      have hleast := hfits.least_le
      omega
    apply (Nat.pow_lt_pow_iff_right (a := 10) (by decide)).mp
    calc 10 ^ leadingZeros 400 (around m).middle (around m).unit
        ≤ (around m).middle * 10 ^ leadingZeros 400 (around m).middle (around m).unit :=
          Nat.le_mul_of_pos_left _ hmiddle
      _ < (around m).unit := hbelow
      _ ≤ 2 ^ 1076 := hunit
      _ < 10 ^ 324 := by decide +kernel

/-- A number has as many digits as it needs, and no more. -/
theorem pow_length_toDigits_le {n : Nat} (hn : 0 < n) :
    10 ^ ((Nat.toDigits 10 n).length - 1) ≤ n := by
  by_cases hsingle : (Nat.toDigits 10 n).length - 1 = 0
  · rw [hsingle, Nat.pow_zero]
    exact hn
  · by_contra hlt
    have hshort := (Nat.length_toDigits_le_iff (by decide) (Nat.pos_of_ne_zero hsingle)).mpr
      (Nat.not_le.mp hlt)
    omega

/-- The first digit of the middle stands where it should, and not too far behind the point. -/
theorem position_around (hfits : m.Fits) (hpos : 0 < m.mantissa) :
    (10 : ℚ) ^ ((around m).position - 1) ≤ m.value ∧ -324 < (around m).position := by
  have hunit : (0 : ℚ) < (around m).unit := by exact_mod_cast unit_around_pos m
  unfold position
  split
  · next hle =>
    -- from one on, the position is the number of digits in front of the point
    have hone : 1 ≤ (around m).middle / (around m).unit :=
      (Nat.one_le_div_iff (unit_around_pos m)).mpr hle
    have hlength : 0 < (Nat.toDigits 10 ((around m).middle / (around m).unit)).length :=
      Nat.length_toDigits_pos
    refine ⟨?_, by omega⟩
    have hdigits := pow_length_toDigits_le hone
    have hcast : (((Nat.toDigits 10 ((around m).middle / (around m).unit)).length : ℤ) - 1) =
        ((Nat.toDigits 10 ((around m).middle / (around m).unit)).length - 1 : ℕ) := by omega
    rw [hcast, zpow_natCast, ← middle_div_unit]
    calc (10 : ℚ) ^ ((Nat.toDigits 10 ((around m).middle / (around m).unit)).length - 1)
        ≤ ((around m).middle / (around m).unit : ℕ) := by exact_mod_cast hdigits
      _ ≤ (around m).middle / (around m).unit := Nat.cast_div_le
  · -- below one it counts the zeros behind the point, and there are fewer than 324 of them
    have hlt := leadingZeros_around_lt hfits hpos
    have hend := (leadingZeros_spec 400 (around m).middle (around m).unit).1 (by omega)
    generalize leadingZeros 400 (around m).middle (around m).unit = zeros at hlt hend ⊢
    refine ⟨?_, by omega⟩
    have hcast : (-(zeros : ℤ) - 1) = -((zeros + 1 : ℕ) : ℤ) := by
      push_cast
      ring
    have hend' : ((around m).unit : ℚ) ≤ (around m).middle * 10 ^ (zeros + 1) := by
      exact_mod_cast hend
    rw [hcast, zpow_neg, zpow_natCast, ← middle_div_unit, le_div_iff₀ hunit,
      inv_mul_le_iff₀ (by positivity), mul_comm]
    exact hend'

/-! ## Seventeen digits suffice -/

theorem catches_of_between {q : ℚ} (hlow : (m.mantissa - m.gapBelow) * 2 ^ m.exponent < q)
    (hhigh : q < (m.mantissa + 1 / 2) * 2 ^ m.exponent) : m.Catches q where
  low := hlow.le
  high := hhigh.le
  ends := by
    rintro (heq | heq)
    · exact absurd heq hlow.ne'
    · exact absurd heq hhigh.ne

/-- The interval is wider than the steps of a grid of seventeen digits. -/
theorem step_lt_width (hfits : m.Fits) {step : ℚ} (hstep : step * 10 ^ 16 ≤ m.value) :
    step < (1 / 2 + m.gapBelow) * 2 ^ m.exponent := by
  have hwidth := two_zpow_pos m.exponent
  rw [Magnitude.value] at hstep
  have hmantissa : (m.mantissa : ℚ) < 2 ^ 53 := by
    have h : (m.mantissa : ℚ) < ((2 * leadingBit : ℕ) : ℚ) := by exact_mod_cast hfits.mantissa_lt
    push_cast [cast_leadingBit] at h
    linarith
  unfold Magnitude.gapBelow
  split
  · next hleast =>
    have hmantissa' : (m.mantissa : ℚ) = 2 ^ 52 := by rw [hleast.1, cast_leadingBit]
    rw [hmantissa'] at hstep
    linarith
  · nlinarith

theorem gapBelow_pos (m : Magnitude) : 0 < m.gapBelow := by
  unfold Magnitude.gapBelow
  split <;> norm_num

/-- A step that is shorter than the interval cannot leap over it. -/
theorem catches_of_step {q step : ℚ} (hlow : q ≤ m.value) (hhigh : m.value < q + step)
    (hstep : step < (1 / 2 + m.gapBelow) * 2 ^ m.exponent) :
    m.Catches q ∨ m.Catches (q + step) := by
  have hwidth := two_zpow_pos m.exponent
  have hgap := gapBelow_pos m
  rw [Magnitude.value] at hlow hhigh
  by_contra hnone
  obtain ⟨hbelow, habove⟩ := not_or.mp hnone
  -- both ends of the step lie outside, so the step is at least as long as the interval
  have hleft : q ≤ (m.mantissa - m.gapBelow) * 2 ^ m.exponent := by
    by_contra hgt
    exact hbelow (catches_of_between (not_le.mp hgt) (by nlinarith))
  have hright : (m.mantissa + 1 / 2) * 2 ^ m.exponent ≤ q + step := by
    by_contra hlt
    exact habove (catches_of_between (by nlinarith) (not_le.mp hlt))
  nlinarith

/-- On the grid of seventeen digits one of the neighbours of the middle lies in the interval. -/
theorem holds_of_seventeen (hfits : m.Fits) (hpos : 0 < m.mantissa) :
    (around m).holds ((around m).floorOn ((around m).position - 17)) = true ∨
      (around m).holds ⟨((around m).floorOn ((around m).position - 17)).coefficient + 1,
        (around m).position - 17⟩ = true := by
  obtain ⟨hfirst, -⟩ := position_around hfits hpos
  obtain ⟨hfloor, hceil⟩ := floorOn_around m ((around m).position - 17)
  have hdigits : (10 : ℚ) ^ ((around m).position - 17) * 10 ^ 16 ≤ m.value := by
    calc (10 : ℚ) ^ ((around m).position - 17) * 10 ^ 16
        = 10 ^ ((around m).position - 1) := by
          rw [← zpow_natCast, ← zpow_add₀ (by norm_num)]
          congr 1
          push_cast
          ring
      _ ≤ m.value := hfirst
  have hnext : (Scientific.mk (((around m).floorOn ((around m).position - 17)).coefficient + 1)
      ((around m).position - 17)).value =
      ((around m).floorOn ((around m).position - 17)).value + 10 ^ ((around m).position - 17) := by
    have hexponent : ((around m).floorOn ((around m).position - 17)).exponent =
        (around m).position - 17 := rfl
    rw [Scientific.value, Scientific.value, hexponent]
    push_cast
    ring
  rw [hnext] at hceil
  rw [holds_around_iff hpos, holds_around_iff hpos, hnext]
  exact catches_of_step hfloor hceil (step_lt_width hfits hdigits)

/-- What is taken from a grid lies in the interval and on the grid. -/
theorem of_onGrid? {i : Interval} {tie : Tie} {e : ℤ} {d : Scientific}
    (hgrid : i.onGrid? tie e = some d) : i.holds d = true ∧ d.exponent = e := by
  unfold onGrid? at hgrid
  dsimp only at hgrid
  split at hgrid
  · next hlower hupper =>
    rw [← Option.some.inj hgrid]
    split
    · exact ⟨hlower, rfl⟩
    · exact ⟨hupper, rfl⟩
  · next hlower hupper =>
    rw [← Option.some.inj hgrid]
    exact ⟨hlower, rfl⟩
  · next hlower hupper =>
    rw [← Option.some.inj hgrid]
    exact ⟨hupper, rfl⟩
  · cases hgrid

end Interval

/-! ## The decimal that is chosen -/

theorem value_trim (d : Scientific) : d.trim.value = d.value := by
  unfold Scientific.trim
  split
  · next hten =>
    rw [Scientific.value, Scientific.value, hten, zpow_add_one₀ (by norm_num)]
    push_cast
    ring
  · rfl

theorem exponent_le_trim (d : Scientific) : d.exponent ≤ d.trim.exponent := by
  unfold Scientific.trim
  split
  · exact Int.le_add_of_nonneg_right (by decide)
  · exact le_refl _

variable {m : Magnitude}

/-- A decimal is found on one of the grids up to that of seventeen digits. -/
theorem exists_shortest (tie : Tie) (hfits : m.Fits) (hpos : 0 < m.mantissa) :
    ∃ d : Scientific, shortest tie m = d.trim ∧ m.Catches d.value ∧
      (Interval.around m).position - 17 ≤ d.exponent := by
  unfold shortest
  dsimp only
  split
  · next d hfound =>
    obtain ⟨n, hn, hgrid⟩ := List.exists_of_findSome?_eq_some hfound
    obtain ⟨hholds, hexponent⟩ := Interval.of_onGrid? hgrid
    have hlt : n < 17 := List.mem_range.mp hn
    exact ⟨d, rfl, (Interval.holds_around_iff hpos d).mp hholds, by omega⟩
  · next hnone =>
    -- the last grid has something to offer
    exfalso
    have hlast := List.findSome?_eq_none_iff.mp hnone 16 (by decide)
    have hseventeen := Interval.holds_of_seventeen hfits hpos
    have hexponent : (Interval.around m).position - 1 - (16 : ℕ) =
        (Interval.around m).position - 17 := by
      push_cast
      ring
    rw [hexponent] at hlast
    unfold Interval.onGrid? at hlast
    dsimp only at hlast
    rcases hseventeen with hlower | hupper
    · rw [hlower] at hlast
      split at hlast <;> simp_all
    · rw [hupper] at hlast
      split at hlast <;> simp_all

/-- The decimal chosen for a magnitude is rounded to this magnitude. -/
theorem catches_shortest (tie : Tie) (hfits : m.Fits) (hpos : 0 < m.mantissa) :
    m.Catches (shortest tie m).value := by
  obtain ⟨d, hd, hcatch, -⟩ := exists_shortest tie hfits hpos
  rw [hd, value_trim]
  exact hcatch

/-- The last digit of the decimal chosen for a magnitude is not too far behind the point. -/
theorem le_exponent_shortest (tie : Tie) (hfits : m.Fits) (hpos : 0 < m.mantissa) :
    -341 < (shortest tie m).exponent := by
  obtain ⟨d, hd, -, hexponent⟩ := exists_shortest tie hfits hpos
  obtain ⟨-, hposition⟩ := Interval.position_around hfits hpos
  have htrim := exponent_le_trim d
  rw [hd]
  omega

end DocQuery.Decimal
