import Mathlib
import DocQuery.Decimal.Binary

/-!
# The Bits of a Floating-Point Number

A pattern of 64 bits is a sign, a field of eleven bits and a fraction of 52 bits, in this order.
A finite number above zero is kept in a pattern below that of infinity, and negation of a finite
number only turns the sign.

## Main definitions

- `IsPositive`: a finite number above zero, by its bits

## Main statements

- `isPositive_of_not_lt`, `isPositive_neg`: a finite number other than zero or its negation is
  positive
- `IsPositive.view_eq`, `view_eq_of_lt`: what a number stands for that is not zero
-/

namespace DocQuery.Decimal.Float64

open Float.Model Float.Model.UnpackedFloat

/-- A finite number above zero. -/
structure IsPositive (x : Float) : Prop where
  pos : 0 < x.toBits.toNat
  finite : x.toBits.toNat < infinityBits

variable {x : Float}

/-! ## Sign, field and fraction -/

theorem toNat_packComponents (sign : Sign) (field : BitVec 11) (fraction : BitVec 52) :
    (packComponents Format.binary64 sign field fraction).toNat =
      sign.toBitVec.toNat * signBit + field.toNat * leadingBit + fraction.toNat := by
  have hfraction : fraction.toNat < 2 ^ 52 := fraction.isLt
  have hfield : field.toNat < 2 ^ 11 := field.isLt
  simp only [packComponents, BitVec.toNat_append]
  rw [← Nat.shiftLeft_add_eq_or_of_lt hfraction, ← Nat.shiftLeft_add_eq_or_of_lt hfield,
    Nat.shiftLeft_eq, Nat.shiftLeft_eq]
  simp only [signBit, leadingBit]
  omega

/-- Numbers with a positive sign and a field that is not full are positive, unless field and
fraction are zero. -/
theorem isPositive_of_toBitVec_eq {field : BitVec 11} {fraction : BitVec 52}
    (hbits : x.toBits.toBitVec = packComponents Format.binary64 .positive field fraction)
    (hfield : field ≠ -1#11) (hzero : ¬(field = 0#11 ∧ fraction = 0#52)) : IsPositive x := by
  have hnat : x.toBits.toNat = field.toNat * leadingBit + fraction.toNat := by
    rw [← UInt64.toNat_toBitVec, hbits, toNat_packComponents]
    simp [Sign.toBitVec]
  have hfull : field.toNat ≠ 2047 := by
    intro h
    exact hfield (BitVec.eq_of_toNat_eq h)
  have hlt : field.toNat < 2048 := field.isLt
  have hfraction : fraction.toNat < 2 ^ 52 := fraction.isLt
  constructor
  · rw [hnat]
    by_contra hle
    simp only [leadingBit] at hle
    exact hzero ⟨BitVec.eq_of_toNat_eq (by simp; omega), BitVec.eq_of_toNat_eq (by simp; omega)⟩
  · rw [hnat]
    simp only [leadingBit, infinityBits]
    omega

/-- The bits of a finite number other than zero are a field that is not full and a fraction. -/
theorem field_ne_of_unpack {b : BitVec 64} {s : Sign} {m : Nat} {e : Int} {h : 0 < m}
    (hunpack : unpack Format.binary64 b = .finite s m e h) :
    @unpackExponent Format.binary64 b ≠ -1#11 ∧
      ¬(@unpackExponent Format.binary64 b = 0#11 ∧
        @unpackMantissa Format.binary64 b = 0#52) := by
  unfold UnpackedFloat.unpack at hunpack
  dsimp only at hunpack
  split at hunpack
  · split at hunpack <;> cases hunpack
  · next hfull =>
    split at hunpack
    · split at hunpack
      · cases hunpack
      · next hfraction =>
        cases hunpack
        exact ⟨hfull, fun hzero => hfraction hzero.2⟩
    · next hfield =>
      cases hunpack
      exact ⟨hfull, fun hzero => hfield hzero.1⟩

/-- The bits of a number with a mantissa, but for the sign. -/
theorem pack_finite_of_unpack {b : BitVec 64} {s : Sign} {m : Nat} {e : Int} {h : 0 < m}
    (hpack : pack Format.binary64 (.finite s m e h) = b)
    (hfield : @unpackExponent Format.binary64 b ≠ -1#11) (r : Sign) :
    pack Format.binary64 (.finite r m e h) =
      packComponents Format.binary64 r (unpackExponent b) (unpackMantissa b) := by
  subst hpack
  revert hfield
  unfold UnpackedFloat.pack
  dsimp only
  split
  · intro hfield
    exact absurd (by simp [packedInfinity]) hfield
  · intro _
    split <;> simp

/-! ## Comparing with zero -/

theorem unpack_zero : (0 : Float).toModel.unpack = .zero .positive := rfl

/-- A finite number is zero, or it has a mantissa and is below zero exactly if its sign is
negative. -/
theorem unpack_of_isFinite (hfinite : x.isFinite = true) (hzero : (x == 0) = false) :
    ∃ s m e h, unpack Format.binary64 x.toBits.toBitVec = .finite s m e h ∧
      (x < 0 ↔ s = .negative) := by
  have hlt : x < 0 ↔ x.toModel.unpack.lt (.zero .positive) = true := by
    rw [← unpack_zero]
    exact decide_eq_true_iff
  have hbeq : (x == 0) = x.toModel.unpack.beq (.zero .positive) := rfl
  have hstatus : x.isFinite = x.toModel.unpack.isFinite := rfl
  rw [hbeq] at hzero
  rw [hstatus] at hfinite
  rw [hlt]
  cases hunpack : x.toModel.unpack with
  | infinity s => rw [hunpack] at hfinite; cases hfinite
  | notANumber => rw [hunpack] at hfinite; cases hfinite
  | zero s => rw [hunpack] at hzero; cases hzero
  | finite s m e h =>
    refine ⟨s, m, e, h, hunpack, ?_⟩
    cases s <;> simp [UnpackedFloat.lt, UnpackedFloat.compare]

theorem pack_unpack_toBits (x : Float) :
    pack Format.binary64 (unpack Format.binary64 x.toBits.toBitVec) = x.toBits.toBitVec :=
  pack_unpack_of_valid x.toModel.valid

/-- A finite number that is neither zero nor below zero is positive. -/
theorem isPositive_of_not_lt (hfinite : x.isFinite = true) (hzero : (x == 0) = false)
    (hsign : ¬x < 0) : IsPositive x := by
  obtain ⟨s, m, e, h, hunpack, hneg⟩ := unpack_of_isFinite hfinite hzero
  obtain ⟨hfield, hnonzero⟩ := field_ne_of_unpack hunpack
  have hpositive : s = .positive := by
    cases s with
    | positive => rfl
    | negative => exact absurd (hneg.mpr rfl) hsign
  have hpack : pack Format.binary64 (.finite s m e h) = x.toBits.toBitVec := by
    rw [← hunpack]
    exact pack_unpack_toBits x
  apply isPositive_of_toBitVec_eq _ hfield hnonzero
  rw [← pack_finite_of_unpack hpack hfield, ← hpositive]
  exact hpack.symm

/-- A finite number below zero and its negation have the same field and fraction. -/
theorem exists_components_of_lt (hfinite : x.isFinite = true) (hsign : x < 0) :
    ∃ (field : BitVec 11) (fraction : BitVec 52), field ≠ -1#11 ∧
      ¬(field = 0#11 ∧ fraction = 0#52) ∧
      x.toBits.toBitVec = packComponents Format.binary64 .negative field fraction ∧
      (-x).toBits.toBitVec = packComponents Format.binary64 .positive field fraction := by
  have hzero : (x == 0) = false := by
    rw [← Bool.not_eq_true, Float.beq_iff_ne_nan_and_eq]
    rintro ⟨-, -, rfl | ⟨rfl, -⟩ | ⟨rfl, -⟩⟩ <;> revert hsign <;> decide +kernel
  obtain ⟨s, m, e, h, hunpack, hneg⟩ := unpack_of_isFinite hfinite hzero
  obtain ⟨hfield, hnonzero⟩ := field_ne_of_unpack hunpack
  have hs : s = .negative := hneg.mp hsign
  have hpack : pack Format.binary64 (.finite s m e h) = x.toBits.toBitVec := by
    rw [← hunpack]
    exact pack_unpack_toBits x
  refine ⟨_, _, hfield, hnonzero, ?_, ?_⟩
  · rw [← pack_finite_of_unpack hpack hfield, ← hs]
    exact hpack.symm
  · rw [← pack_finite_of_unpack hpack hfield]
    -- negation turns the sign of the number that was taken apart
    show pack Format.binary64 (unpack Format.binary64 x.toBits.toBitVec).neg = _
    rw [hunpack, hs]
    rfl

/-- The negation of a finite number below zero is positive. -/
theorem isPositive_neg (hfinite : x.isFinite = true) (hsign : x < 0) : IsPositive (-x) := by
  obtain ⟨field, fraction, hfield, hnonzero, -, hbits⟩ := exists_components_of_lt hfinite hsign
  exact isPositive_of_toBitVec_eq hbits hfield hnonzero

/-! ## Positive numbers -/

/-- A positive number stands for the magnitude that its bits keep. -/
theorem IsPositive.view_eq (hx : IsPositive x) :
    view x = .finite false (magnitudeOfBits x.toBits.toNat) := by
  have hlt := hx.finite
  have hbelow : x.toBits.toNat < signBit := by
    simp only [infinityBits, leadingBit, signBit] at hlt ⊢
    omega
  unfold view viewBits
  rw [Nat.mod_eq_of_lt hbelow, if_neg (Nat.not_lt.mpr (Nat.le_of_lt hlt)),
    if_neg (Nat.ne_of_lt hlt), decide_eq_false (Nat.not_le.mpr hbelow)]

/-- A number below zero stands for the magnitude that the bits of its negation keep. -/
theorem view_eq_of_lt (hfinite : x.isFinite = true) (hsign : x < 0) :
    view x = .finite true (magnitudeOfBits (-x).toBits.toNat) := by
  have hpositive := (isPositive_neg hfinite hsign).finite
  obtain ⟨field, fraction, -, -, hbits, hbits'⟩ := exists_components_of_lt hfinite hsign
  have hnat : x.toBits.toNat = signBit + (-x).toBits.toNat := by
    rw [← UInt64.toNat_toBitVec, ← UInt64.toNat_toBitVec, hbits, hbits', toNat_packComponents,
      toNat_packComponents]
    simp [Sign.toBitVec, Nat.add_assoc]
  have hrest : x.toBits.toNat % signBit = (-x).toBits.toNat := by
    rw [hnat, Nat.add_mod_left, Nat.mod_eq_of_lt (hpositive.trans (by decide))]
  unfold view viewBits
  rw [hrest, if_neg (Nat.not_lt.mpr (Nat.le_of_lt hpositive)), if_neg (Nat.ne_of_lt hpositive),
    decide_eq_true (hnat ▸ Nat.le_add_right _ _)]

end DocQuery.Decimal.Float64
