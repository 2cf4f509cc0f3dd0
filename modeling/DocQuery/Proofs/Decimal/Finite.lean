import Mathlib
import DocQuery.Decimal.Reading
import DocQuery.Proofs.Decimal.Rounding

/-!
# Numbers That Are Not Rounded to Infinity

A quotient below `2 ^ 1023` is rounded to bits below those of infinity, and a pattern of bits below
those of infinity is a finite number, whatever its sign.  Whole numbers of 64 bits are far below
that bound.

## Main statements

- `nearestBits_lt_infinityBits`: the bits of the nearest number
- `isFinite_nearest`, `isFinite_ofInt`: the nearest number is finite
-/

namespace DocQuery.Decimal.Float64

open Float.Model Float.Model.UnpackedFloat

/-! ## Bits below those of infinity -/

/-- The field of a pattern whose lower 63 bits are below those of infinity is not full. -/
theorem unpackExponent_ne {b : Nat} (hfinite : b % signBit < infinityBits) :
    @unpackExponent Format.binary64 (BitVec.ofNat 64 b) ≠ -1#11 := by
  intro hfull
  have hfield : b % 2 ^ 64 / 2 ^ 52 % 2 ^ 11 = 2047 := by
    have h := congrArg BitVec.toNat hfull
    change (b % 2 ^ 64) >>> 52 % 2 ^ 11 = 2047 at h
    rwa [Nat.shiftRight_eq_div_pow] at h
  simp only [signBit, infinityBits, leadingBit] at hfinite
  omega

theorem isFinite_unpack {b : BitVec 64} (hfield : @unpackExponent Format.binary64 b ≠ -1#11) :
    (unpack Format.binary64 b).isFinite = true := by
  unfold UnpackedFloat.unpack
  dsimp only
  rw [if_neg hfield]
  split
  · split <;> rfl
  · rfl

theorem isFinite_ofBits {b : Nat} (hfinite : b % signBit < infinityBits) :
    (Float.ofBits (UInt64.ofNat b)).isFinite = true := by
  have hfield := unpackExponent_ne hfinite
  have hvalid : Format.binary64.Valid (BitVec.ofNat 64 b) := ⟨fun hfull => absurd hfull hfield⟩
  -- what was packed is taken apart again
  show (unpack Format.binary64
    (pack Format.binary64 (unpack Format.binary64 (BitVec.ofNat 64 b)))).isFinite = true
  rw [pack_unpack_of_valid hvalid]
  exact isFinite_unpack hfield

/-! ## Rounding -/

theorem roundHalfEven_le (n d : Nat) : roundHalfEven n d ≤ n / d + 1 := by
  unfold roundHalfEven
  dsimp only
  split
  · exact Nat.le_succ _
  · split
    · exact le_refl _
    · have hparity : n / d % 2 < 2 := Nat.mod_lt _ (by decide)
      omega

/-- A quotient below `2 ^ 1023` is not rounded to infinity. -/
theorem nearestBits_lt_infinityBits {num den : Nat} (hden : 0 < den)
    (hlt : (num / den : ℚ) < 2 ^ 1023) : nearestBits num den < infinityBits := by
  unfold nearestBits
  split
  · decide
  · next hnum =>
    obtain ⟨hleast, hbelow, hfull⟩ := fittingExponent_spec hnum hden
    have hscale := (scale_lt_iff hden (fittingExponent num den)).mpr hbelow
    dsimp only
    generalize fittingExponent num den = e at hleast hfull hscale ⊢
    have hexponent : e ≤ 970 := by
      rcases hfull with rfl | hfull
      · decide
      · by_contra hgt
        have hpow : (2 : ℚ) ^ (971 : ℤ) ≤ 2 ^ e := zpow_le_zpow_right₀ (by norm_num) (by omega)
        have hbound : (2 : ℚ) ^ 1023 ≤ 2 ^ 52 * 2 ^ e :=
          calc (2 : ℚ) ^ 1023 = 2 ^ 52 * 2 ^ (971 : ℤ) := by
                rw [← zpow_natCast, ← zpow_natCast, ← zpow_add₀ (by norm_num)]
                rfl
            _ ≤ 2 ^ 52 * 2 ^ e := mul_le_mul_of_nonneg_left hpow (by norm_num)
        exact absurd (hbound.trans hfull) (not_le.mpr hlt)
    have hwhole : (scale num den e).1 / (scale num den e).2 < 2 * leadingBit :=
      Nat.div_lt_of_lt_mul hscale
    have hround := roundHalfEven_le (scale num den e).1 (scale num den e).2
    have hfield : (e + 1074).toNat ≤ 2044 := by omega
    refine lt_of_le_of_lt (Nat.min_le_right _ _) ?_
    simp only [infinityBits, leadingBit] at hwhole ⊢
    omega

/-- A number that is not rounded to infinity is finite. -/
theorem isFinite_nearest (negative : Bool) {num den : Nat} (hden : 0 < den)
    (hlt : (num / den : ℚ) < 2 ^ 1023) : (nearest negative num den).isFinite = true := by
  have hbits := nearestBits_lt_infinityBits hden hlt
  apply isFinite_ofBits
  have hrest : ((if negative then signBit else 0) + nearestBits num den) % signBit =
      nearestBits num den := by
    have hbelow : nearestBits num den < signBit := hbits.trans (by decide)
    cases negative with
    | false => simp [Nat.mod_eq_of_lt hbelow]
    | true => simp [Nat.mod_eq_of_lt hbelow]
  rw [hrest]
  exact hbits

/-- A whole number of at most 64 bits has a finite nearest number. -/
theorem isFinite_ofInt {n : Int} (hbits : n.natAbs < 2 ^ 64) : (ofInt n).isFinite = true := by
  apply isFinite_nearest _ Nat.one_pos
  have hcast : (n.natAbs : ℚ) < 2 ^ 64 := by exact_mod_cast hbits
  rw [Nat.cast_one, div_one]
  exact hcast.trans (pow_lt_pow_right₀ (by norm_num) (by norm_num))

end DocQuery.Decimal.Float64
