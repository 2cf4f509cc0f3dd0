import Mathlib
import DocQuery.Decimal.Layout
import DocQuery.Decimal.Reading
import DocQuery.Proofs.Decimal.Bits
import DocQuery.Proofs.Decimal.Digits

/-!
# Numbers Read Back

A positive number that is written without an exponent is read back as itself: the digits that are
written stand for the decimal chosen for the number, reading rounds this decimal, and the decimal
lies in the interval of numbers that are rounded to the number.

## Main definitions

- `fixedText`: whole digits and a fraction, which may be missing

## Main statements

- `exists_fixedText`: a positive number has a text of this form that reads back as the number
- `ofFixed_natText`: so have whole numbers
- `readFloat?_fixedText`: every text of this form is read, as the number that it writes
-/

namespace DocQuery.Decimal

open Float64 (leadingBit IsPositive)

/-- A number written with whole digits and a fraction; without digits in the fraction there is no
point either. -/
def fixedText (whole fraction : List Char) : List Char :=
  whole ++ if fraction = [] then [] else '.' :: fraction

/-- Digits, and at least one of them in front of the point. -/
structure IsFixed (whole fraction : List Char) : Prop where
  ne_nil : whole ≠ []
  whole_digits : ∀ c ∈ whole, c.isDigit = true
  fraction_digits : ∀ c ∈ fraction, c.isDigit = true

theorem length_fixedText (whole fraction : List Char) :
    (fixedText whole fraction).length =
      whole.length + if fraction = [] then 0 else fraction.length + 1 := by
  rw [fixedText, List.length_append]
  split <;> rfl

theorem mem_fixedText {whole fraction : List Char} (hfixed : IsFixed whole fraction) {c : Char}
    (hc : c ∈ fixedText whole fraction) : c = '.' ∨ c.isDigit = true := by
  rcases List.mem_append.mp hc with hwhole | hfraction
  · exact .inr (hfixed.whole_digits c hwhole)
  · split at hfraction
    · cases hfraction
    · exact (List.mem_cons.mp hfraction).imp_right (hfixed.fraction_digits c)

/-- A text of whole digits and a fraction is read as the number that it writes. -/
theorem readFloat?_fixedText {whole fraction : List Char} (hfixed : IsFixed whole fraction) :
    readFloat? (fixedText whole fraction) = some (ofFixed whole fraction) := by
  have hwhole : takeDigits (fixedText whole fraction) =
      (whole, if fraction = [] then [] else '.' :: fraction) := by
    rw [takeDigits, fixedText, List.takeWhile_append_of_pos hfixed.whole_digits,
      List.dropWhile_append_of_pos hfixed.whole_digits]
    split <;> simp
  have hfraction : takeDigits fraction = (fraction, []) := by
    rw [takeDigits, List.takeWhile_eq_self_iff.mpr hfixed.fraction_digits,
      List.dropWhile_eq_nil_iff.mpr hfixed.fraction_digits]
  have hunsigned : readUnsigned? false (fixedText whole fraction) =
      some (ofFixed whole fraction) := by
    have hne : whole ++ fraction ≠ [] := List.append_ne_nil_of_left_ne_nil hfixed.ne_nil _
    simp only [readUnsigned?, hwhole]
    by_cases hempty : fraction = []
    · subst hempty
      simp [hfixed.ne_nil, readExponent?, ofFixed]
    · simp [hempty, hfraction, hfixed.ne_nil, readExponent?, ofFixed]
  obtain ⟨c, cs, rfl⟩ := List.exists_cons_of_ne_nil hfixed.ne_nil
  have hdigit : c.isDigit = true := hfixed.whole_digits c List.mem_cons_self
  have hlower : c.toLower = c := Char.toLower_eq_of_not_isUpper (by
    simp only [Char.isDigit, Char.isUpper, Bool.and_eq_true, decide_eq_true_eq] at hdigit ⊢
    have hlast := hdigit.2
    intro hupper
    exact absurd (UInt32.le_trans hupper.1 hlast) (by decide))
  -- no sign stands in front, and none of the words for infinity and for no number begins like this
  have hmagnitude : ∀ rest, readMagnitude? false (c :: rest) = readUnsigned? false (c :: rest) := by
    intro rest
    have hletters : c ≠ 'i' ∧ c ≠ 'n' := by
      constructor <;> (rintro rfl; cases hdigit)
    simp [readMagnitude?, hlower, hletters]
  rw [fixedText, List.cons_append] at hunsigned ⊢
  rw [readFloat?, hmagnitude, hunsigned]
  · rintro rest heq
    cases heq
    cases hdigit
  · rintro rest heq
    cases heq
    cases hdigit

/-! ## Layout -/

theorem isDigit_of_mem_replicate {n : Nat} {c : Char} (h : c ∈ List.replicate n '0') :
    c.isDigit = true := by
  rw [List.eq_of_mem_replicate h]
  rfl

/-- What stands before and behind the point when a decimal is written without an exponent. -/
theorem exists_positionalText (d : Scientific) :
    ∃ whole fraction, Layout.positional.positionalText d = fixedText whole fraction ∧
      IsFixed whole fraction ∧ fraction.length = (-d.exponent).toNat ∧
      Nat.ofDigitChars 10 (whole ++ fraction) 0 = d.coefficient * 10 ^ d.exponent.toNat := by
  have hdigits : ∀ c ∈ Nat.toDigits 10 d.coefficient, c.isDigit = true := fun c hc =>
    isDigit_of_mem_natText hc
  have hne : Nat.toDigits 10 d.coefficient ≠ [] := Nat.toDigits_ne_nil
  have hvalue : Nat.ofDigitChars 10 (Nat.toDigits 10 d.coefficient) 0 = d.coefficient :=
    Nat.ofDigitChars_ten_toDigits
  unfold Layout.positionalText
  dsimp only
  generalize Nat.toDigits 10 d.coefficient = digits at hdigits hne hvalue ⊢
  split
  · next hexponent =>
    -- a whole number, with zeros at the end
    refine ⟨digits ++ List.replicate d.exponent.toNat '0', [], ?_, ⟨?_, ?_, ?_⟩, ?_, ?_⟩
    · simp [fixedText, Layout.positional]
    · simp [hne]
    · intro c hc
      exact (List.mem_append.mp hc).elim (hdigits c) isDigit_of_mem_replicate
    · exact fun c hc => absurd hc List.not_mem_nil
    · rw [List.length_nil]
      omega
    · rw [List.append_nil, Nat.ofDigitChars_append, hvalue, Nat.ofDigitChars_replicate_zero,
        Nat.mul_comm]
  · next hexponent =>
    have hpower : d.exponent.toNat = 0 := by omega
    rw [hpower, Nat.pow_zero, Nat.mul_one]
    split
    · next hshort =>
      -- the point stands between the digits
      refine ⟨digits.take (digits.length - (-d.exponent).toNat),
        digits.drop (digits.length - (-d.exponent).toNat), ?_, ⟨?_, ?_, ?_⟩, ?_, ?_⟩
      · have hfraction : digits.drop (digits.length - (-d.exponent).toNat) ≠ [] := by
          rw [← List.length_pos_iff, List.length_drop]
          omega
        rw [fixedText, if_neg hfraction]
      · rw [← List.length_pos_iff, List.length_take]
        omega
      · exact fun c hc => hdigits c (List.mem_of_mem_take hc)
      · exact fun c hc => hdigits c (List.mem_of_mem_drop hc)
      · rw [List.length_drop]
        omega
      · rw [List.take_append_drop, hvalue]
    · next hlong =>
      -- all digits stand behind the point
      refine ⟨['0'], List.replicate ((-d.exponent).toNat - digits.length) '0' ++ digits, ?_,
        ⟨?_, ?_, ?_⟩, ?_, ?_⟩
      · rw [fixedText, if_neg (by simp [hne])]
        rfl
      · exact List.cons_ne_nil _ _
      · intro c hc
        rw [List.mem_singleton.mp hc]
        rfl
      · intro c hc
        exact (List.mem_append.mp hc).elim isDigit_of_mem_replicate (hdigits c)
      · rw [List.length_append, List.length_replicate]
        omega
      · rw [List.singleton_append, Nat.ofDigitChars_cons, Nat.ofDigitChars_append,
          Nat.ofDigitChars_replicate_zero]
        simpa using hvalue

/-! ## Reading -/

/-- A decimal in the interval around a magnitude that is not written with too many digits is read
as this magnitude. -/
theorem ofFixed_of_catches {m : Magnitude} (hfits : m.Fits)
    (hfinite : m.bits < Float64.infinityBits) {whole fraction : List Char} {d : Scientific}
    (hlength : fraction.length = (-d.exponent).toNat)
    (hvalue : Nat.ofDigitChars 10 (whole ++ fraction) 0 = d.coefficient * 10 ^ d.exponent.toNat)
    (hcoefficient : d.coefficient ≠ 0) (hexponent : -341 < d.exponent)
    (hcatch : m.Catches d.value) :
    ofFixed whole fraction = Float.ofBits (UInt64.ofNat m.bits) := by
  unfold ofFixed scaled
  rw [hvalue, hlength]
  have hne : d.coefficient * 10 ^ d.exponent.toNat ≠ 0 :=
    Nat.mul_ne_zero hcoefficient (Nat.pow_pos (by decide)).ne'
  have hden : 0 < Nat.pow 10 (-d.exponent).toNat := Nat.pow_pos (by decide)
  have hquotient : ((d.coefficient * 10 ^ d.exponent.toNat : ℕ) : ℚ) /
      (Nat.pow 10 (-d.exponent).toNat : ℕ) = d.value := by
    have hpow := pow_toNat_div 10 d.exponent
    rw [Nat.cast_mul, mul_div_assoc, Scientific.value]
    exact congrArg _ hpow
  rw [← hquotient] at hcatch
  -- the digits are neither so many nor so few that the answer is decided beforehand
  rw [if_neg hne, if_neg (by omega), if_neg (by omega), neg_neg, Int.toNat_natCast,
    Int.toNat_neg_natCast]
  show Float64.nearest false (d.coefficient * 10 ^ d.exponent.toNat * 1) _ = _
  rw [Nat.mul_one, Float64.nearest, Float64.nearestBits_eq hfits hfinite hne hden hcatch,
    if_neg Bool.false_ne_true, Nat.zero_add]

/-- Only zero is kept without a mantissa. -/
theorem mantissa_pos_of_bits {m : Magnitude} (hfits : m.Fits) (hbits : 0 < m.bits) :
    0 < m.mantissa := by
  by_contra hzero
  have hmantissa : m.mantissa = 0 := by omega
  have hexponent : m.exponent = -1074 := by
    apply hfits.full.resolve_right
    rw [hmantissa]
    decide
  rw [Magnitude.bits, hmantissa, hexponent] at hbits
  exact absurd hbits (by decide)

/-- Zero lies in no interval around a magnitude with a mantissa. -/
theorem coefficient_ne_zero_of_catches {m : Magnitude} {d : Scientific} (hmantissa : 0 < m.mantissa)
    (hcatch : m.Catches d.value) : d.coefficient ≠ 0 := by
  intro hzero
  have hlow := hcatch.low
  have hgap := Float64.gapBelow_le m
  have hwidth := two_zpow_pos m.exponent
  have hone : (1 : ℚ) ≤ m.mantissa := by exact_mod_cast hmantissa
  rw [Scientific.value, hzero] at hlow
  push_cast at hlow
  nlinarith

/-- A positive number is written in a form that is read back as the number. -/
theorem exists_fixedText {x : Float} (hx : IsPositive x) :
    ∃ whole fraction, Layout.positional.text x = fixedText whole fraction ∧
      IsFixed whole fraction ∧ ofFixed whole fraction = x := by
  obtain ⟨hfits, hbits⟩ := Magnitude.fits_magnitudeOfBits x.toBits.toNat
  have hview := hx.view_eq
  generalize Float64.magnitudeOfBits x.toBits.toNat = m at hfits hbits hview
  have hmantissa : 0 < m.mantissa := by
    apply mantissa_pos_of_bits hfits
    rw [hbits]
    exact hx.pos
  have hfinite : m.bits < Float64.infinityBits := by
    rw [hbits]
    exact hx.finite
  have hcatch := catches_shortest .larger hfits hmantissa
  have hcoefficient := coefficient_ne_zero_of_catches hmantissa hcatch
  have hexponent := le_exponent_shortest .larger hfits hmantissa
  have htext : Layout.positional.text x =
      Layout.positional.positionalText (shortest .larger m) := by
    rw [Layout.text, hview]
    show Layout.positional.magnitudeText m = _
    rw [Layout.magnitudeText, if_neg hmantissa.ne']
    rfl
  obtain ⟨whole, fraction, hlayout, hfixed, hlength, hvalue⟩ :=
    exists_positionalText (shortest .larger m)
  refine ⟨whole, fraction, htext.trans hlayout, hfixed, ?_⟩
  rw [ofFixed_of_catches hfits hfinite hlength hvalue hcoefficient hexponent hcatch, hbits]
  simp

/-- A whole number without a sign is read as the number nearest to it. -/
theorem ofFixed_natText (n : Nat) : ofFixed (natText n) [] = Float64.ofInt n := by
  have hvalue : Nat.ofDigitChars 10 (natText n ++ []) 0 = n := by
    rw [List.append_nil, natText, Nat.ofDigitChars_ten_toDigits]
  have hsign : ¬((n : ℤ) < 0) := by omega
  unfold ofFixed scaled
  rw [hvalue, Float64.ofInt, Int.natAbs_natCast, decide_eq_false hsign]
  split
  · next hzero => rw [hzero]
  · rw [if_neg (by simp), if_neg (by simp)]
    simp

theorem isFixed_natText (n : Nat) : IsFixed (natText n) [] where
  ne_nil := Nat.toDigits_ne_nil
  whole_digits := fun _ hc => isDigit_of_mem_natText hc
  fraction_digits := fun _ hc => absurd hc List.not_mem_nil

theorem fixedText_natText (n : Nat) : fixedText (natText n) [] = natText n := List.append_nil _

end DocQuery.Decimal
