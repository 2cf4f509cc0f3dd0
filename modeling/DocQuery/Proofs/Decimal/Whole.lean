import Mathlib
import DocQuery.Decimal.Layout
import DocQuery.Proofs.Decimal.Digits
import DocQuery.Proofs.Decimal.Finite
import DocQuery.Proofs.Decimal.RoundTrip

/-!
# Whole Numbers in Digits

A whole number that is written without an exponent is written in digits alone, however large it is:
the decimal that is chosen for it has no digit behind the point.  For the grid of step one holds the
number itself, so that no finer grid is looked at.

## Main definitions

- `Magnitude.IsWhole`: the magnitudes of whole numbers
- `IsNumeral`: rows of digits

## Main statements

- `isNumeral_of_isWhole`: how a positive whole number is written
- `isNumeral_ofInt`: how the number nearest to a whole number is written
-/

namespace DocQuery.Decimal

open Float64 (leadingBit infinityBits signBit IsPositive)

/-- A row of digits, at least one. -/
def IsNumeral (cs : List Char) : Prop := cs ≠ [] ∧ ∀ c ∈ cs, c.isDigit = true

namespace Magnitude

variable {m : Magnitude}

/-- The magnitude is a whole number. -/
def IsWhole (m : Magnitude) : Prop := ∃ n : ℕ, m.value = n

/-! ## Which magnitudes are whole -/

theorem isWhole_of_exponent_nonneg (hexponent : 0 ≤ m.exponent) : m.IsWhole := by
  obtain ⟨k, hk⟩ := Int.eq_ofNat_of_zero_le hexponent
  refine ⟨m.mantissa * 2 ^ k, ?_⟩
  rw [value, hk]
  push_cast
  rw [zpow_natCast]

/-- A mantissa that can be divided as often as the exponent says makes a whole number. -/
theorem value_of_whole? {n : Nat} (h : Float64.Magnitude.whole? m = some n) : m.value = n := by
  have hpow := pow_toNat_div 2 m.exponent
  unfold Float64.Magnitude.whole? at h
  dsimp only at h
  split at h
  · next hmod =>
    have hshift : ((Nat.pow 2 (-m.exponent).toNat : ℕ) : ℚ) ≠ 0 := by
      exact_mod_cast (Nat.pow_pos (by decide)).ne'
    have hmantissa : (m.mantissa : ℚ) =
        (m.mantissa / Nat.pow 2 (-m.exponent).toNat : ℕ) * (Nat.pow 2 (-m.exponent).toNat : ℕ) := by
      exact_mod_cast (Nat.div_mul_cancel (Nat.dvd_of_mod_eq_zero hmod)).symm
    -- one of the two powers is one, whatever the sign of the exponent
    rw [← Option.some.inj h, value, hmantissa, ← Nat.cast_two (R := ℚ), ← hpow]
    push_cast
    field_simp
  · cases h

end Magnitude

/-! ## The decimal of a whole number -/

section Shortest

variable {m : Magnitude}

/-- On the grid of step one the neighbour below a whole number is the number itself. -/
theorem value_floorOn_zero (hwhole : m.IsWhole) :
    ((Interval.around m).floorOn 0).value = m.value := by
  obtain ⟨n, hn⟩ := hwhole
  obtain ⟨hle, hlt⟩ := Interval.floorOn_around m 0
  have hexponent : ((Interval.around m).floorOn 0).exponent = 0 := rfl
  simp only [Scientific.value, hexponent, zpow_zero, mul_one, hn, Nat.cast_le, Nat.cast_lt]
    at hle hlt ⊢
  have heq : ((Interval.around m).floorOn 0).coefficient = n := by omega
  exact_mod_cast heq

/-- A magnitude lies in the interval around it. -/
theorem Magnitude.catches_value (m : Magnitude) : m.Catches m.value := by
  have hgap := Interval.gapBelow_pos m
  have hwidth := two_zpow_pos m.exponent
  apply Interval.catches_of_between
  · rw [Magnitude.value]
    nlinarith
  · rw [Magnitude.value]
    nlinarith

/-- The grid of step one has something to offer for a whole number. -/
theorem onGrid?_zero_ne_none (tie : Tie) (hpos : 0 < m.mantissa) (hwhole : m.IsWhole) :
    (Interval.around m).onGrid? tie 0 ≠ none := by
  have hholds : (Interval.around m).holds ((Interval.around m).floorOn 0) = true := by
    rw [Interval.holds_around_iff hpos, value_floorOn_zero hwhole]
    exact m.catches_value
  unfold Interval.onGrid?
  simp only [hholds]
  cases (Interval.around m).holds
    ⟨((Interval.around m).floorOn 0).coefficient + 1, 0⟩ <;> simp

/-- A whole number has a digit in front of the point. -/
theorem one_le_position (hpos : 0 < m.mantissa) (hwhole : m.IsWhole) :
    1 ≤ (Interval.around m).position := by
  have hunit : (0 : ℚ) < (Interval.around m).unit := by
    exact_mod_cast Interval.unit_around_pos m
  have hmantissa : (0 : ℚ) < m.mantissa := by exact_mod_cast hpos
  obtain ⟨n, hn⟩ := hwhole
  have hvalue : 0 < m.value := mul_pos hmantissa (two_zpow_pos m.exponent)
  have hone : (1 : ℚ) ≤ m.value := by
    rw [hn] at hvalue ⊢
    exact_mod_cast hvalue
  have hle : (Interval.around m).unit ≤ (Interval.around m).middle := by
    rw [← Interval.middle_div_unit, le_div_iff₀ hunit, one_mul] at hone
    exact_mod_cast hone
  have hlength : 0 < (Nat.toDigits 10 ((Interval.around m).middle /
      (Interval.around m).unit)).length := Nat.length_toDigits_pos
  rw [Interval.position, if_pos hle]
  omega

/-- What is found first in a search through the numbers is found no later than anything else. -/
theorem exists_le_of_findSome?_range {α : Type} {f : Nat → Option α} {k limit : Nat} {a : α}
    (hfound : (List.range limit).findSome? f = some a) (hk : f k ≠ none) :
    ∃ n, n ≤ k ∧ f n = some a := by
  induction limit with
  | zero => cases hfound
  | succ limit ih =>
    rw [List.range_succ, List.findSome?_append] at hfound
    cases hfirst : (List.range limit).findSome? f with
    | some b =>
      rw [hfirst, Option.some_or] at hfound
      exact ih (hfirst.trans hfound)
    | none =>
      -- nothing is found before the last number
      have hlast : limit ≤ k := by
        by_contra hlt
        exact hk (List.findSome?_eq_none_iff.mp hfirst k (List.mem_range.mpr (not_le.mp hlt)))
      refine ⟨limit, hlast, ?_⟩
      simpa [hfirst] using hfound

/-- The decimal chosen for a whole number has no digits behind the point. -/
theorem exponent_shortest_nonneg (tie : Tie) (hpos : 0 < m.mantissa) (hwhole : m.IsWhole) :
    0 ≤ (shortest tie m).exponent := by
  have hposition := one_le_position hpos hwhole
  have hzero := onGrid?_zero_ne_none tie hpos hwhole
  -- the place of the grid of step one in the search
  obtain ⟨k, hk⟩ := Int.eq_ofNat_of_zero_le (Int.sub_nonneg_of_le hposition)
  have hgrid : (Interval.around m).onGrid? tie ((Interval.around m).position - 1 - (k : ℤ)) ≠
      none := by
    rwa [hk, sub_self]
  unfold shortest
  dsimp only
  split
  · next d hfound =>
    obtain ⟨n, hn, hfrom⟩ := exists_le_of_findSome?_range hfound hgrid
    have hexponent := (Interval.of_onGrid? hfrom).2
    have htrim := exponent_le_trim d
    omega
  · next hnone =>
    have hmany : 17 ≤ k := by
      by_contra hlt
      exact hgrid (List.findSome?_eq_none_iff.mp hnone k (List.mem_range.mpr (not_le.mp hlt)))
    show 0 ≤ (Interval.around m).position - 17
    omega

end Shortest

/-! ## Their text -/

/-- A positive whole number is written in digits. -/
theorem isNumeral_of_isWhole {x : Float} (hx : IsPositive x)
    (hwhole : (Float64.magnitudeOfBits x.toBits.toNat).IsWhole) :
    IsNumeral (Layout.positional.text x) := by
  obtain ⟨hfits, hbits⟩ := Magnitude.fits_magnitudeOfBits x.toBits.toNat
  have hview := hx.view_eq
  generalize Float64.magnitudeOfBits x.toBits.toNat = m at hwhole hfits hbits hview
  have hmantissa : 0 < m.mantissa := mantissa_pos_of_bits hfits (by rw [hbits]; exact hx.pos)
  have hexponent := exponent_shortest_nonneg .larger hmantissa hwhole
  have htext : Layout.positional.text x =
      Layout.positional.positionalText (shortest .larger m) := by
    rw [Layout.text, hview]
    show Layout.positional.magnitudeText m = _
    rw [Layout.magnitudeText, if_neg hmantissa.ne']
    rfl
  -- as many digits behind the point as the exponent is below zero
  obtain ⟨whole, fraction, hlayout, hfixed, hlength, -⟩ :=
    exists_positionalText (shortest .larger m)
  have hfraction : fraction = [] := List.length_eq_zero_iff.mp (by omega)
  rw [htext, hlayout, hfraction, fixedText, if_pos rfl, List.append_nil]
  exact ⟨hfixed.ne_nil, hfixed.whole_digits⟩

/-- A positive number that is whole is written in digits. -/
theorem isNumeral_of_whole? {x : Float} (hx : IsPositive x) {n : Int}
    (hwhole : Float64.whole? x = some n) : IsNumeral (Layout.positional.text x) := by
  rw [Float64.whole?, hx.view_eq] at hwhole
  obtain ⟨_, hcast, -⟩ := Option.map_eq_some_iff.mp hwhole
  obtain ⟨k, hk, -⟩ := Option.bind_eq_some_iff.mp hcast
  exact isNumeral_of_isWhole hx (⟨k, Magnitude.value_of_whole? hk⟩)

/-! ## Signs -/

/-- Only finite numbers are whole. -/
theorem isFinite_of_whole? {x : Float} {n : Int} (hwhole : Float64.whole? x = some n) :
    x.isFinite = true := by
  have hrest : x.toBits.toNat % signBit < infinityBits := by
    unfold Float64.whole? Float64.view Float64.viewBits at hwhole
    dsimp only at hwhole
    by_contra hge
    -- such bits are those of infinity or of no number
    rcases Nat.lt_or_eq_of_le (not_lt.mp hge) with hlt | heq
    · rw [if_pos hlt] at hwhole
      cases hwhole
    · rw [if_neg (by omega), if_pos heq.symm] at hwhole
      cases hwhole
  have hfinite := Float64.isFinite_ofBits hrest
  simpa using hfinite

/-- A whole number below zero is whole below zero. -/
theorem whole?_neg_of_lt {x : Float} {n : Int} (hwhole : Float64.whole? x = some n)
    (hsign : x < 0) : n < 0 := by
  have hfinite := isFinite_of_whole? hwhole
  have hx := Float64.isPositive_neg hfinite hsign
  obtain ⟨hfits, hbits⟩ := Magnitude.fits_magnitudeOfBits (-x).toBits.toNat
  rw [Float64.whole?, Float64.view_eq_of_lt hfinite hsign] at hwhole
  obtain ⟨_, hcast, hneg⟩ := Option.map_eq_some_iff.mp hwhole
  obtain ⟨k, hk, hcast⟩ := Option.bind_eq_some_iff.mp hcast
  cases hcast
  have hvalue := Magnitude.value_of_whole? hk
  have hmantissa : (0 : ℚ) < (Float64.magnitudeOfBits (-x).toBits.toNat).mantissa := by
    exact_mod_cast mantissa_pos_of_bits hfits (by rw [hbits]; exact hx.pos)
  have hpos : (0 : ℚ) < (Float64.magnitudeOfBits (-x).toBits.toNat).value :=
    mul_pos hmantissa (two_zpow_pos _)
  rw [hvalue] at hpos
  have hk' : 0 < k := by exact_mod_cast hpos
  rw [if_pos rfl] at hneg
  omega

/-! ## Numbers nearest to whole numbers -/

namespace Float64

open Float.Model Float.Model.UnpackedFloat

/-- Bits below those of infinity are kept as they are. -/
theorem toBits_ofBits {b : Nat} (hfinite : b < infinityBits) :
    (Float.ofBits (UInt64.ofNat b)).toBits.toNat = b := by
  have hbelow : b < signBit := hfinite.trans (by decide)
  have hfield := unpackExponent_ne ((Nat.mod_eq_of_lt hbelow).trans_lt hfinite)
  have hvalid : Format.binary64.Valid (BitVec.ofNat 64 b) := ⟨fun hfull => absurd hfull hfield⟩
  have hpack : (Float.ofBits (UInt64.ofNat b)).toBits.toBitVec =
      pack Format.binary64 (unpack Format.binary64 (BitVec.ofNat 64 b)) := rfl
  rw [← UInt64.toNat_toBitVec, hpack, pack_unpack_of_valid hvalid, BitVec.toNat_ofNat]
  exact Nat.mod_eq_of_lt (hbelow.trans (by decide))

/-- A field above zero and a fraction, taken apart. -/
theorem magnitudeOfBits_of_field {field fraction : Nat} (hfraction : fraction < leadingBit) :
    magnitudeOfBits ((field + 1) * leadingBit + fraction) =
      ⟨leadingBit + fraction, (field : ℤ) - 1074⟩ := by
  have hpos : 0 < leadingBit := by decide
  have hdiv : ((field + 1) * leadingBit + fraction) / leadingBit = field + 1 := by
    rw [Nat.add_comm, Nat.add_mul_div_right _ _ hpos, Nat.div_eq_of_lt hfraction, Nat.zero_add]
  have hmod : ((field + 1) * leadingBit + fraction) % leadingBit = fraction := by
    rw [Nat.add_comm, Nat.add_mul_mod_self_right, Nat.mod_eq_of_lt hfraction]
  have hexponent : ((field + 1 : ℕ) : ℤ) - 1075 = field - 1074 := by omega
  rw [magnitudeOfBits, hdiv, hmod, if_neg (Nat.succ_ne_zero field), hexponent]

theorem le_roundHalfEven (n d : Nat) : n / d ≤ roundHalfEven n d := by
  unfold roundHalfEven
  dsimp only
  split
  · exact le_refl _
  · split
    · exact Nat.le_succ _
    · exact Nat.le_add_right _ _

/-- No whole number but zero is so small that its mantissa is shorter than others. -/
theorem leadingBit_le_scale {n : Nat} (hn : n ≠ 0) :
    -1074 < fittingExponent n 1 ∧
      leadingBit ≤ (scale n 1 (fittingExponent n 1)).1 / (scale n 1 (fittingExponent n 1)).2 := by
  obtain ⟨hleast, hbelow, hfull⟩ := fittingExponent_spec hn Nat.one_pos
  have hone : (1 : ℚ) ≤ n := by exact_mod_cast Nat.one_le_iff_ne_zero.mpr hn
  have hne : fittingExponent n 1 ≠ -1074 := by
    intro heq
    -- the numbers below the grid of the least exponent are smaller than one
    have htiny : (2 : ℚ) ^ 53 * 2 ^ (-1074 : ℤ) ≤ 1 := by
      rw [← zpow_natCast, ← zpow_add₀ (by norm_num)]
      exact zpow_le_one_of_nonpos₀ (by norm_num) (by norm_num)
    rw [heq, Nat.cast_one, div_one] at hbelow
    linarith
  refine ⟨lt_of_le_of_ne hleast hne.symm, ?_⟩
  have hpos : (0 : ℚ) < (scale n 1 (fittingExponent n 1)).2 := by
    exact_mod_cast scale_pos Nat.one_pos n _
  have hquotient : (leadingBit : ℚ) ≤
      (scale n 1 (fittingExponent n 1)).1 / (scale n 1 (fittingExponent n 1)).2 := by
    rw [scale_eq, cast_leadingBit, le_div_iff₀ (two_zpow_pos _)]
    exact hfull.resolve_left hne
  rw [Nat.le_div_iff_mul_le (scale_pos Nat.one_pos n _)]
  rw [le_div_iff₀ hpos] at hquotient
  exact_mod_cast hquotient

/-- The bits of the number nearest to a whole number, if that is not infinity. -/
theorem nearestBits_eq_of_lt {n : Nat} (hn : n ≠ 0) (hfinite : nearestBits n 1 < infinityBits) :
    nearestBits n 1 = (fittingExponent n 1 + 1074).toNat * leadingBit +
      roundHalfEven (scale n 1 (fittingExponent n 1)).1 (scale n 1 (fittingExponent n 1)).2 := by
  rw [nearestBits, if_neg hn] at hfinite ⊢
  dsimp only at hfinite ⊢
  exact Nat.min_eq_right ((min_lt_iff.mp hfinite).resolve_left (lt_irrefl _)).le

/-- Bits made of an exponent and a mantissa of full length have a field above that exponent. -/
theorem exists_field (e : ℤ) {mantissa : Nat} (hlong : leadingBit ≤ mantissa) :
    ∃ field fraction, fraction < leadingBit ∧
      (e + 1074).toNat * leadingBit + mantissa = (field + 1) * leadingBit + fraction ∧
      (e + 1074).toNat ≤ field := by
  have hpos : 0 < leadingBit := by decide
  obtain ⟨more, rfl⟩ := Nat.exists_eq_add_of_le hlong
  refine ⟨(e + 1074).toNat + more / leadingBit, more % leadingBit, Nat.mod_lt more hpos, ?_,
    Nat.le_add_right _ _⟩
  calc (e + 1074).toNat * leadingBit + (leadingBit + more)
      = (e + 1074).toNat * leadingBit + (leadingBit +
          (leadingBit * (more / leadingBit) + more % leadingBit)) := by rw [Nat.div_add_mod]
    _ = ((e + 1074).toNat + more / leadingBit + 1) * leadingBit + more % leadingBit := by ring

/-- What a whole number is rounded to is whole: either the exponent is not negative, or there is
nothing to round. -/
theorem isWhole_nearestBits {n : Nat} (hn : n ≠ 0) (hfinite : nearestBits n 1 < infinityBits) :
    (magnitudeOfBits (nearestBits n 1)).IsWhole := by
  obtain ⟨-, hbelow, -⟩ := fittingExponent_spec hn Nat.one_pos
  obtain ⟨hleast, hlong⟩ := leadingBit_le_scale hn
  have hscale := scale_eq n 1 (fittingExponent n 1)
  have hshort := (scale_lt_iff Nat.one_pos (fittingExponent n 1)).mpr hbelow
  have hround := le_roundHalfEven (scale n 1 (fittingExponent n 1)).1
    (scale n 1 (fittingExponent n 1)).2
  rw [nearestBits_eq_of_lt hn hfinite]
  by_cases hexponent : 0 ≤ fittingExponent n 1
  · -- rounding up may carry into the exponent, but does not make it smaller
    obtain ⟨field, fraction, hfraction, hbits, hfield⟩ := exists_field (fittingExponent n 1)
      (hlong.trans hround)
    rw [hbits, magnitudeOfBits_of_field hfraction]
    apply Magnitude.isWhole_of_exponent_nonneg
    have hleast' : 1074 ≤ (fittingExponent n 1 + 1074).toNat := by
      clear * - hexponent
      omega
    exact Int.sub_nonneg_of_le (by exact_mod_cast hleast'.trans hfield)
  · -- the mantissa is the number, multiplied by a power of two
    have hden : (scale n 1 (fittingExponent n 1)).2 = 1 := by
      have htoNat : (fittingExponent n 1).toNat = 0 := by omega
      simp [scale, htoNat]
    rw [hden, roundHalfEven_one]
    rw [hden, Nat.div_one] at hlong
    rw [hden, Nat.one_mul, two_mul] at hshort
    rw [hden, Nat.cast_one, div_one, div_one] at hscale
    generalize (scale n 1 (fittingExponent n 1)).1 = mantissa at hlong hshort hscale ⊢
    obtain ⟨fraction, rfl⟩ := Nat.exists_eq_add_of_le hlong
    have hbits : (fittingExponent n 1 + 1074).toNat * leadingBit + (leadingBit + fraction) =
        ((fittingExponent n 1 + 1074).toNat + 1) * leadingBit + fraction := by ring
    refine ⟨n, ?_⟩
    have hexponent' : ((fittingExponent n 1 + 1074).toNat : ℤ) - 1074 = fittingExponent n 1 := by
      clear * - hleast
      omega
    rw [hbits, magnitudeOfBits_of_field (Nat.lt_of_add_lt_add_left hshort), Magnitude.value]
    dsimp only
    rw [hexponent', hscale, div_mul_cancel₀ _ (two_zpow_pos _).ne']

/-- The number nearest to a whole number is kept in the bits that rounding gives. -/
theorem toBits_ofInt {n : Nat} (hfinite : nearestBits n 1 < infinityBits) :
    (ofInt n).toBits.toNat = nearestBits n 1 := by
  have hsign : decide ((n : ℤ) < 0) = false := decide_eq_false (by omega)
  rw [ofInt, Int.natAbs_natCast, hsign, nearest, if_neg Bool.false_ne_true, Nat.zero_add,
    toBits_ofBits hfinite]

end Float64

/-- The number nearest to a whole number of at most 64 bits is written in digits. -/
theorem isNumeral_ofInt {n : Nat} (hsize : n < 2 ^ 64) :
    IsNumeral (Layout.positional.text (Float64.ofInt n)) := by
  by_cases hn : n = 0
  · have hzero : Layout.positional.text (Float64.ofInt (0 : ℕ)) = ['0'] := by decide +kernel
    rw [hn, hzero]
    exact ⟨List.cons_ne_nil _ _, by simp⟩
  · have hlt : ((n : ℚ) / (1 : ℕ)) < 2 ^ 1023 := by
      have hcast : (n : ℚ) < 2 ^ 64 := by exact_mod_cast hsize
      rw [Nat.cast_one, div_one]
      exact hcast.trans (pow_lt_pow_right₀ (by norm_num) (by norm_num))
    have hfinite := Float64.nearestBits_lt_infinityBits Nat.one_pos hlt
    have hbits := Float64.toBits_ofInt hfinite
    have hpositive : IsPositive (Float64.ofInt n) := by
      refine ⟨?_, by rwa [hbits]⟩
      have hleast := (Float64.leadingBit_le_scale hn).1
      rw [hbits, Float64.nearestBits_eq_of_lt hn hfinite]
      simp only [leadingBit]
      omega
    apply isNumeral_of_isWhole hpositive
    rw [hbits]
    exact Float64.isWhole_nearestBits hn hfinite

end DocQuery.Decimal
