import Mathlib
import DocQuery.Decimal.Binary

/-!
# Rounding to the Nearest Magnitude

Every magnitude has an interval of numbers around it whose nearest magnitude it is.  Its ends lie
half way to the neighbours, and they belong to it when the mantissa is even.  Below the least
mantissa of an exponent the neighbour is nearer.  All quotients in this interval are rounded to the
magnitude, whichever of two exponents they are scaled with at first.

## Main definitions

- `Magnitude.value`: the number that a magnitude stands for
- `Magnitude.bits`, `Magnitude.Fits`: how a magnitude is kept, and which ones are
- `Magnitude.Catches`: the interval of numbers around a magnitude

## Main statements

- `Float64.nearestBits_eq`: quotients in the interval are rounded to the magnitude
-/

namespace DocQuery.Decimal

open Float64 (leadingBit infinityBits)

/-! ## Magnitudes as rational numbers -/

theorem two_zpow_pos (e : ℤ) : (0 : ℚ) < 2 ^ e := zpow_pos (by norm_num) e

theorem two_zpow_succ (e : ℤ) : (2 : ℚ) ^ (e + 1) = 2 * 2 ^ e := by
  rw [zpow_add_one₀ (by norm_num), mul_comm]

/-- The least mantissa of full length. -/
theorem cast_leadingBit : (leadingBit : ℚ) = 2 ^ 52 := by norm_num [leadingBit]

namespace Magnitude

/-- The number that a magnitude stands for. -/
def value (m : Magnitude) : ℚ := m.mantissa * 2 ^ m.exponent

/-- The bits that keep the magnitude. -/
def bits (m : Magnitude) : Nat := (m.exponent + 1074).toNat * leadingBit + m.mantissa

/-- Magnitudes that are kept in bits have a short mantissa, and one of full length unless the
exponent is the least one. -/
structure Fits (m : Magnitude) : Prop where
  mantissa_lt : m.mantissa < 2 * leadingBit
  least_le : -1074 ≤ m.exponent
  full : m.exponent = -1074 ∨ leadingBit ≤ m.mantissa

/-- How far the neighbour below is away, in units of `2 ^ exponent` and halved. -/
def gapBelow (m : Magnitude) : ℚ :=
  if m.mantissa = leadingBit ∧ -1074 < m.exponent then 1 / 4 else 1 / 2

/-- The interval of numbers whose nearest magnitude is `m`. -/
structure Catches (m : Magnitude) (q : ℚ) : Prop where
  low : (m.mantissa - m.gapBelow) * 2 ^ m.exponent ≤ q
  high : q ≤ (m.mantissa + 1 / 2) * 2 ^ m.exponent
  ends : q = (m.mantissa - m.gapBelow) * 2 ^ m.exponent ∨
    q = (m.mantissa + 1 / 2) * 2 ^ m.exponent → m.mantissa % 2 = 0

theorem fits_magnitudeOfBits (b : Nat) :
    (Float64.magnitudeOfBits b).Fits ∧ (Float64.magnitudeOfBits b).bits = b := by
  have hdiv : leadingBit * (b / leadingBit) + b % leadingBit = b := Nat.div_add_mod _ _
  have hmod : b % leadingBit < leadingBit := Nat.mod_lt _ (by decide)
  unfold Float64.magnitudeOfBits
  dsimp only
  split
  · next hfield =>
    rw [hfield] at hdiv
    refine ⟨⟨?_, le_refl _, .inl rfl⟩, ?_⟩
    · show b % leadingBit < 2 * leadingBit
      omega
    · show (-1074 + 1074 : ℤ).toNat * leadingBit + b % leadingBit = b
      simp only [Int.reduceAdd, Int.toNat_zero]
      omega
  · next hfield =>
    have hpos : 0 < b / leadingBit := Nat.pos_of_ne_zero hfield
    have hone : leadingBit ≤ leadingBit * (b / leadingBit) := Nat.le_mul_of_pos_right _ hpos
    generalize b / leadingBit = field at hdiv hpos hone ⊢
    have hsub : ((field : ℤ) - 1075 + 1074).toNat = field - 1 := by omega
    refine ⟨⟨?_, ?_, .inr (Nat.le_add_right _ _)⟩, ?_⟩
    · show leadingBit + b % leadingBit < 2 * leadingBit
      omega
    · show (-1074 : ℤ) ≤ field - 1075
      omega
    · show ((field : ℤ) - 1075 + 1074).toNat * leadingBit + (leadingBit + b % leadingBit) = b
      rw [hsub, Nat.sub_mul, Nat.one_mul, Nat.mul_comm]
      omega

end Magnitude

namespace Float64

/-! ## Whole numbers -/

/-- A quotient that is nearer to a whole number than to any other, or half way between an even
one and the next, is rounded to it. -/
theorem roundHalfEven_eq {n d m : Nat} (hd : 0 < d) (hlow : (m : ℚ) - 1 / 2 ≤ n / d)
    (hhigh : (n / d : ℚ) ≤ m + 1 / 2)
    (hends : (n / d : ℚ) = m - 1 / 2 ∨ (n / d : ℚ) = m + 1 / 2 → m % 2 = 0) :
    roundHalfEven n d = m := by
  have hd' : (0 : ℚ) < d := by exact_mod_cast hd
  have hdiv : n = d * (n / d) + n % d := (Nat.div_add_mod n d).symm
  have hmod : n % d < d := Nat.mod_lt n hd
  unfold roundHalfEven
  dsimp only
  generalize n / d = whole at hdiv ⊢
  generalize n % d = rest at hdiv hmod ⊢
  have hlow' : 2 * m * d ≤ 2 * n + d := by
    rw [le_div_iff₀ hd'] at hlow
    have h : ((2 * m * d : ℕ) : ℚ) ≤ ((2 * n + d : ℕ) : ℚ) := by
      push_cast
      linarith
    exact_mod_cast h
  have hhigh' : 2 * n ≤ (2 * m + 1) * d := by
    rw [div_le_iff₀ hd'] at hhigh
    have h : ((2 * n : ℕ) : ℚ) ≤ (((2 * m + 1) * d : ℕ) : ℚ) := by
      push_cast
      linarith
    exact_mod_cast h
  subst hdiv
  split
  · next hrest =>
    -- the quotient is nearer to the whole number below
    have habove : m < whole + 1 := by
      apply Nat.lt_of_mul_lt_mul_right (a := d)
      linarith
    have hbelow : whole < m + 1 := by
      apply Nat.lt_of_mul_lt_mul_right (a := d)
      linarith
    omega
  · next hrest =>
    have habove : m < whole + 2 := by
      apply Nat.lt_of_mul_lt_mul_right (a := d)
      linarith
    split
    · next hrest' =>
      have hbelow : whole < m := by
        apply Nat.lt_of_mul_lt_mul_right (a := d)
        linarith
      omega
    · next hrest' =>
      -- a tie, so the quotient lies at an end of the interval around `m`
      have htie : 2 * rest = d := by omega
      have hvalue : ((d * whole + rest : ℕ) / d : ℚ) = whole + 1 / 2 := by
        rw [div_eq_iff hd'.ne']
        have : (2 * rest : ℚ) = d := by exact_mod_cast htie
        push_cast
        linarith
      have hbelow : whole < m + 1 := by
        apply Nat.lt_of_mul_lt_mul_right (a := d)
        linarith
      rcases Nat.lt_succ_iff_lt_or_eq.mp habove with hlt | heq
      · obtain rfl : m = whole := by omega
        have heven := hends (.inr hvalue)
        omega
      · obtain rfl : m = whole + 1 := heq
        have heven := hends (.inl (by rw [hvalue]; push_cast; ring))
        omega

/-! ## Exponents -/

theorem scale_pos {den : Nat} (hden : 0 < den) (num : Nat) (e : ℤ) : 0 < (scale num den e).2 :=
  Nat.mul_pos hden (Nat.pow_pos (by decide))

/-- Scaling divides by a power of two. -/
theorem scale_eq (num den : Nat) (e : ℤ) :
    ((scale num den e).1 : ℚ) / (scale num den e).2 = num / den / 2 ^ e := by
  obtain ⟨n, rfl | rfl⟩ := e.eq_nat_or_neg
  · simp [scale, div_div]
  · simp [scale]
    ring

/-- A quotient is below the power of two that the lengths of its parts allow. -/
theorem div_lt_two_zpow (num : Nat) {den : Nat} (hden : 0 < den) :
    (num / den : ℚ) < 2 ^ ((num.log2 : ℤ) - den.log2 + 1) := by
  have hden' : (0 : ℚ) < den := by exact_mod_cast hden
  have hnum : (num : ℚ) < 2 ^ (num.log2 + 1) := by exact_mod_cast Nat.lt_log2_self
  have hlog : (2 : ℚ) ^ den.log2 ≤ den := by exact_mod_cast Nat.log2_self_le hden.ne'
  rw [div_lt_iff₀ hden']
  calc (num : ℚ) < 2 ^ (num.log2 + 1) := hnum
    _ = 2 ^ ((num.log2 : ℤ) - den.log2 + 1) * 2 ^ den.log2 := by
      rw [← zpow_natCast, ← zpow_natCast, ← zpow_add₀ (by norm_num)]
      congr 1
      push_cast
      ring
    _ ≤ 2 ^ ((num.log2 : ℤ) - den.log2 + 1) * den :=
      mul_le_mul_of_nonneg_left hlog (two_zpow_pos _).le

/-- A quotient is above a power of two that is four times smaller. -/
theorem two_zpow_lt_div {num den : Nat} (hnum : num ≠ 0) (hden : 0 < den) :
    (2 : ℚ) ^ ((num.log2 : ℤ) - den.log2 - 1) < num / den := by
  have hden' : (0 : ℚ) < den := by exact_mod_cast hden
  have hlog : (2 : ℚ) ^ num.log2 ≤ num := by exact_mod_cast Nat.log2_self_le hnum
  have hlt : (den : ℚ) < 2 ^ (den.log2 + 1) := by exact_mod_cast Nat.lt_log2_self
  rw [lt_div_iff₀ hden']
  calc (2 : ℚ) ^ ((num.log2 : ℤ) - den.log2 - 1) * den
      < 2 ^ ((num.log2 : ℤ) - den.log2 - 1) * 2 ^ (den.log2 + 1) :=
        mul_lt_mul_of_pos_left hlt (two_zpow_pos _)
    _ = 2 ^ num.log2 := by
      rw [← zpow_natCast, ← zpow_natCast, ← zpow_add₀ (by norm_num)]
      congr 1
      push_cast
      ring
    _ ≤ num := hlog

/-- Whether a scaled quotient has at most 53 bits before the point. -/
theorem scale_lt_iff {num den : Nat} (hden : 0 < den) (e : ℤ) :
    (scale num den e).1 < (scale num den e).2 * (2 * leadingBit) ↔
      (num / den : ℚ) < 2 ^ 53 * 2 ^ e := by
  have hpos : (0 : ℚ) < (scale num den e).2 := by exact_mod_cast scale_pos hden num e
  have hbits : (((scale num den e).2 * (2 * leadingBit) : ℕ) : ℚ) =
      2 ^ 53 * (scale num den e).2 := by
    push_cast [leadingBit]
    ring
  rw [← div_lt_iff₀ (two_zpow_pos e), ← scale_eq num den e, div_lt_iff₀ hpos,
    ← Nat.cast_lt (α := ℚ), hbits]

/-- The exponent that is chosen leaves a mantissa of at most 53 bits, and of 53 bits unless it is
the least one. -/
theorem fittingExponent_spec {num den : Nat} (hnum : num ≠ 0) (hden : 0 < den) :
    -1074 ≤ fittingExponent num den ∧
      (num / den : ℚ) < 2 ^ 53 * 2 ^ fittingExponent num den ∧
      (fittingExponent num den = -1074 ∨
        (2 : ℚ) ^ 52 * 2 ^ fittingExponent num den ≤ num / den) := by
  have htwo : (2 : ℚ) ≠ 0 := by norm_num
  unfold fittingExponent
  dsimp only
  -- the first guess is the right exponent or the one below it
  set least : ℤ := max ((num.log2 : ℤ) - den.log2 - 53) (-1074) with hleast
  have hbits : (num.log2 : ℤ) - den.log2 - 53 ≤ least := le_max_left _ _
  split
  · next hlt =>
    refine ⟨le_max_right _ _, (scale_lt_iff hden least).mp hlt, ?_⟩
    rcases max_choice ((num.log2 : ℤ) - den.log2 - 53) (-1074) with h | h
    · right
      calc (2 : ℚ) ^ 52 * 2 ^ least = 2 ^ ((num.log2 : ℤ) - den.log2 - 1) := by
            rw [hleast, h, ← zpow_natCast, ← zpow_add₀ htwo]
            congr 1
            push_cast
            ring
        _ ≤ num / den := (two_zpow_lt_div hnum hden).le
    · exact .inl (hleast.trans h)
  · next hge =>
    have hge' : (2 : ℚ) ^ 53 * 2 ^ least ≤ num / den :=
      not_lt.mp (mt (scale_lt_iff hden least).mpr hge)
    refine ⟨(le_max_right _ _).trans (Int.le_add_of_nonneg_right (by decide)), ?_, .inr ?_⟩
    · calc (num / den : ℚ) < 2 ^ ((num.log2 : ℤ) - den.log2 + 1) := div_lt_two_zpow num hden
        _ ≤ 2 ^ (53 + (least + 1)) := zpow_le_zpow_right₀ (by norm_num) (by omega)
        _ = 2 ^ 53 * 2 ^ (least + 1) := by
          rw [zpow_add₀ htwo]
          norm_num
    · rw [two_zpow_succ]
      linarith

/-! ## Bits -/

section Catches

variable {m : Magnitude} {q : ℚ} {e : ℤ} {n d : Nat}

theorem gapBelow_le (m : Magnitude) : m.gapBelow ≤ 1 / 2 := by
  unfold Magnitude.gapBelow
  split <;> norm_num

/-- A number in the interval around a magnitude has no more than 53 bits above its exponent. -/
theorem le_exponent_of_catches (hfits : m.Fits) (hcatch : m.Catches q)
    (hfull : (2 : ℚ) ^ 52 * 2 ^ e ≤ q) : e ≤ m.exponent := by
  by_contra hgt
  have hpow : (2 : ℚ) * 2 ^ m.exponent ≤ 2 ^ e := by
    calc (2 : ℚ) * 2 ^ m.exponent = 2 ^ (m.exponent + 1) := (two_zpow_succ _).symm
      _ ≤ 2 ^ e := zpow_le_zpow_right₀ (by norm_num) (by omega)
  have hmantissa : (m.mantissa : ℚ) + 1 ≤ 2 ^ 53 := by
    have h : ((m.mantissa + 1 : ℕ) : ℚ) ≤ ((2 * leadingBit : ℕ) : ℚ) := by
      exact_mod_cast hfits.mantissa_lt
    push_cast [cast_leadingBit] at h
    linarith
  have hhigh := hcatch.high
  have hpos := two_zpow_pos m.exponent
  nlinarith

/-- Scaled with the exponent of the magnitude, the number is rounded to the mantissa. -/
theorem roundHalfEven_of_catches (hcatch : m.Catches q) (hd : 0 < d)
    (hq : (n / d : ℚ) = q / 2 ^ m.exponent) : roundHalfEven n d = m.mantissa := by
  have hpos := two_zpow_pos m.exponent
  have hgap := gapBelow_le m
  have hlow : (m.mantissa - 1 / 2 : ℚ) * 2 ^ m.exponent ≤ q := by
    have hlow := hcatch.low
    nlinarith
  apply roundHalfEven_eq hd
  · rw [hq, le_div_iff₀ hpos]
    exact hlow
  · rw [hq, div_le_iff₀ hpos]
    exact hcatch.high
  · rw [hq, div_eq_iff hpos.ne', div_eq_iff hpos.ne']
    rintro (heq | heq)
    · -- the lower end is not below the point half way to a neighbour as near as that above
      apply hcatch.ends
      left
      apply le_antisymm _ hcatch.low
      rw [heq]
      nlinarith
    · exact hcatch.ends (.inr heq)

/-- A number in the interval that is scaled with a lower exponent lies just below the least
mantissa of full length, and is rounded up to it. -/
theorem roundHalfEven_of_catches_below (hfits : m.Fits) (hcatch : m.Catches q)
    (hlt : e < m.exponent) (hleast : -1074 ≤ e) (hbelow : q < 2 ^ 53 * 2 ^ e) (hd : 0 < d)
    (hq : (n / d : ℚ) = q / 2 ^ e) :
    m.mantissa = leadingBit ∧ e + 1 = m.exponent ∧ roundHalfEven n d = 2 * leadingBit := by
  have hpos := two_zpow_pos e
  have hlow := hcatch.low
  have hgap := gapBelow_le m
  have hdouble : (2 : ℚ) * 2 ^ e ≤ 2 ^ m.exponent := by
    calc (2 : ℚ) * 2 ^ e = 2 ^ (e + 1) := (two_zpow_succ e).symm
      _ ≤ 2 ^ m.exponent := zpow_le_zpow_right₀ (by norm_num) (by omega)
  -- a greater mantissa would keep the interval above what the lower exponent can express
  have hmantissa : m.mantissa = leadingBit := by
    have hge : leadingBit ≤ m.mantissa := hfits.full.resolve_left (by omega)
    by_contra hne
    have hgt : (leadingBit : ℚ) + 1 ≤ m.mantissa := by
      exact_mod_cast Nat.lt_of_le_of_ne hge (Ne.symm hne)
    rw [cast_leadingBit] at hgt
    nlinarith
  have hquarter : m.gapBelow = 1 / 4 := by
    unfold Magnitude.gapBelow
    rw [if_pos ⟨hmantissa, by omega⟩]
  rw [hquarter, hmantissa, cast_leadingBit] at hlow
  -- two exponents further down `q` would be below half of the least mantissa
  have hnext : e + 1 = m.exponent := by
    by_contra hne
    have hfour : (4 : ℚ) * 2 ^ e ≤ 2 ^ m.exponent := by
      calc (4 : ℚ) * 2 ^ e = 2 ^ (e + 1 + 1) := by
            rw [two_zpow_succ, two_zpow_succ]
            ring
        _ ≤ 2 ^ m.exponent := zpow_le_zpow_right₀ (by norm_num) (by omega)
    nlinarith
  refine ⟨hmantissa, hnext, ?_⟩
  have hexact : (2 : ℚ) ^ m.exponent = 2 * 2 ^ e := by
    rw [← hnext, two_zpow_succ]
  rw [hexact] at hlow
  have hcast : ((2 * leadingBit : ℕ) : ℚ) = 2 ^ 53 := by
    push_cast [cast_leadingBit]
    norm_num
  -- now `n / d` lies within a half of `2 ^ 53`, which is even
  apply roundHalfEven_eq hd
  · rw [hq, le_div_iff₀ hpos, hcast]
    linarith
  · rw [hq, div_le_iff₀ hpos, hcast]
    nlinarith
  · intro _
    decide

end Catches

/-- All quotients in the interval around a magnitude are rounded to it. -/
theorem nearestBits_eq {m : Magnitude} (hfits : m.Fits) (hfinite : m.bits < infinityBits)
    {num den : Nat} (hnum : num ≠ 0) (hden : 0 < den) (hcatch : m.Catches (num / den)) :
    nearestBits num den = m.bits := by
  obtain ⟨hleast, hbelow, hfull⟩ := fittingExponent_spec hnum hden
  have hscale := scale_eq num den (fittingExponent num den)
  have hpos := scale_pos hden num (fittingExponent num den)
  rw [nearestBits, if_neg hnum]
  dsimp only
  generalize fittingExponent num den = e at hleast hbelow hfull hscale hpos ⊢
  have hle : e ≤ m.exponent := by
    rcases hfull with rfl | hfull
    · exact hfits.least_le
    · exact le_exponent_of_catches hfits hcatch hfull
  suffices hbits : (e + 1074).toNat * leadingBit +
      roundHalfEven (scale num den e).1 (scale num den e).2 = m.bits by
    rw [hbits]
    exact Nat.min_eq_right hfinite.le
  rw [Magnitude.bits]
  rcases hle.eq_or_lt with rfl | hlt
  · rw [roundHalfEven_of_catches hcatch hpos hscale]
  · -- the mantissa that is rounded up carries into the exponent
    obtain ⟨hmantissa, hnext, hround⟩ :=
      roundHalfEven_of_catches_below hfits hcatch hlt hleast hbelow hpos hscale
    have hstep : (m.exponent + 1074).toNat = (e + 1074).toNat + 1 := by omega
    rw [hround, hmantissa, hstep, Nat.add_mul]
    omega

end Float64

end DocQuery.Decimal
