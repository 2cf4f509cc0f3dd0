import DocQuery.Decimal.Binary

/-!
# Reading Numbers

Whole numbers are runs of decimal digits, with a minus sign for the negative ones.
Floating-point numbers may have a fraction, an exponent, or be one of the words for infinity
and for no number; the number read is the nearest one to the decimal written.

## Main definitions

- `readNat?`, `readInt?`, `readInt64?`: whole numbers, and those that fit 64 bits
- `readFloat?`: floating-point numbers
-/

namespace DocQuery.Decimal

/-! ## Whole numbers -/

/-- The value of a non-empty run of digits. -/
def readNat? (cs : List Char) : Option Nat :=
  if cs ≠ [] ∧ cs.all Char.isDigit then some (Nat.ofDigitChars 10 cs 0) else none

/-- The value of a run of digits with a sign in front, or none. -/
def readInt? : List Char → Option Int
  | '-' :: cs => (readNat? cs).map fun n => -(n : Int)
  | '+' :: cs => (readNat? cs).map Int.ofNat
  | cs => (readNat? cs).map Int.ofNat

/-- `n` as an integer of 64 bits, if it fits. -/
def toInt64? (n : Int) : Option Int64 :=
  if Int64.minValue.toInt ≤ n ∧ n ≤ Int64.maxValue.toInt then some (Int64.ofInt n) else none

/-- The 64-bit integer written in `cs`. -/
def readInt64? (cs : List Char) : Option Int64 := (readInt? cs).bind toInt64?

/-- The digits of `n`. -/
def natText (n : Nat) : List Char := Nat.toDigits 10 n

/-- The digits of `n`, with a minus sign if it is negative. -/
def intText (n : Int) : List Char :=
  if n < 0 then '-' :: natText n.natAbs else natText n.natAbs

/-! ## Floating-point numbers -/

/-- The nearest number to `coefficient * 10 ^ exponent`.  Exponents so large or so small that
the answer is infinity or zero whatever the digits are decided without writing the power
out. -/
def scaled (negative : Bool) (coefficient : Nat) (exponent : Int) : Float :=
  if coefficient = 0 then Float64.nearest negative 0 1
  else if 400 < exponent then Float64.infinity negative
  else if exponent + coefficient.log2 < -400 then Float64.nearest negative 0 1
  else Float64.nearest negative (coefficient * Nat.pow 10 exponent.toNat)
    (Nat.pow 10 (-exponent).toNat)

/-- The number written as `whole.fraction`. -/
def ofFixed (whole fraction : List Char) : Float :=
  scaled false (Nat.ofDigitChars 10 (whole ++ fraction) 0) (-fraction.length)

/-- Splits a run of digits off the front. -/
def takeDigits (cs : List Char) : List Char × List Char :=
  (cs.takeWhile Char.isDigit, cs.dropWhile Char.isDigit)

/-- The exponent at the front of `cs`, which must be all that is left. -/
def readExponent? : List Char → Option Int
  | [] => some 0
  | c :: cs => if c = 'e' ∨ c = 'E' then readInt? cs else none

/-- An unsigned decimal: digits, a point and digits, an exponent; digits on one side of the
point are enough. -/
def readUnsigned? (negative : Bool) (cs : List Char) : Option Float :=
  let (whole, rest) := takeDigits cs
  let (fraction, rest) := match rest with
    | '.' :: rest => takeDigits rest
    | _ => ([], rest)
  if whole ++ fraction = [] then none
  else (readExponent? rest).map fun e =>
    scaled negative (Nat.ofDigitChars 10 (whole ++ fraction) 0) (e - fraction.length)

/-- A decimal or one of the words for infinity and for no number, in any case. -/
def readMagnitude? (negative : Bool) (cs : List Char) : Option Float :=
  let word := cs.map Char.toLower
  if word = "inf".toList ∨ word = "infinity".toList then some (Float64.infinity negative)
  else if word = "nan".toList then some Float64.nan
  else readUnsigned? negative cs

/-- The floating-point number written in `cs`. -/
def readFloat? : List Char → Option Float
  | '-' :: cs => readMagnitude? true cs
  | '+' :: cs => readMagnitude? false cs
  | cs => readMagnitude? false cs

/-! ## Small facts -/

/-- The digits of a number read back as the number. -/
theorem readNat?_natText (n : Nat) : readNat? (natText n) = some n := by
  have hd : ∀ c ∈ natText n, c.isDigit = true := fun c hc =>
    Nat.isDigit_of_mem_toDigits (by decide) (by decide) hc
  have hne : natText n ≠ [] := Nat.toDigits_ne_nil
  simp only [readNat?, hne, ne_eq, not_false_eq_true, true_and]
  rw [if_pos (List.all_eq_true.mpr hd)]
  simp [natText, Nat.ofDigitChars_ten_toDigits]

theorem isDigit_of_mem_natText {n : Nat} {c : Char} (h : c ∈ natText n) : c.isDigit = true :=
  Nat.isDigit_of_mem_toDigits (by decide) (by decide) h

/-- A number is written in digits, at least one. -/
theorem exists_natText (n : Nat) : ∃ c cs, natText n = c :: cs ∧ c.isDigit = true := by
  have hne : natText n ≠ [] := Nat.toDigits_ne_nil
  obtain ⟨c, cs, heq⟩ := List.exists_cons_of_ne_nil hne
  have hmem : c ∈ natText n := by rw [heq]; exact List.mem_cons_self
  exact ⟨c, cs, heq, isDigit_of_mem_natText hmem⟩

/-- A whole number is written with a minus sign or without one. -/
theorem intText_eq (n : Int) :
    intText n = '-' :: natText n.natAbs ∨ intText n = natText n.natAbs := by
  unfold intText
  split
  · exact .inl rfl
  · exact .inr rfl

theorem intText_ne_nil (n : Int) : intText n ≠ [] := by
  rcases intText_eq n with h | h
  · rw [h]
    exact List.cons_ne_nil _ _
  · rw [h]
    exact Nat.toDigits_ne_nil

/-- A whole number is written in digits and a minus sign. -/
theorem mem_intText {n : Int} {c : Char} (h : c ∈ intText n) : c = '-' ∨ c.isDigit = true := by
  rcases intText_eq n with heq | heq
  · rw [heq] at h
    exact (List.mem_cons.mp h).imp_right isDigit_of_mem_natText
  · rw [heq] at h
    exact .inr (isDigit_of_mem_natText h)

/-- A whole number reads back as itself. -/
theorem readInt?_intText (n : Int) : readInt? (intText n) = some n := by
  unfold intText
  split
  · next hneg =>
    have habs : -(n.natAbs : Int) = n := by omega
    rw [readInt?, readNat?_natText]
    exact congrArg some habs
  · next hnonneg =>
    obtain ⟨c, cs, heq, hdigit⟩ := exists_natText n.natAbs
    have hread := readNat?_natText n.natAbs
    rw [heq] at hread ⊢
    unfold readInt?
    split
    · next hc => cases hc; exact absurd hdigit (by decide)
    · next hc => cases hc; exact absurd hdigit (by decide)
    · rw [hread]
      exact congrArg some (Int.natAbs_of_nonneg (Int.not_lt.mp hnonneg))

/-- An integer of 64 bits fits 64 bits. -/
theorem toInt64?_toInt (n : Int64) : toInt64? n.toInt = some n := by
  have h₁ : Int64.minValue.toInt ≤ n.toInt := Int64.minValue_le_toInt n
  have h₂ : n.toInt ≤ Int64.maxValue.toInt := Int64.toInt_le n
  simp only [toInt64?]
  rw [if_pos ⟨h₁, h₂⟩]
  simp

theorem toInt_of_toInt64? {n : Int} {i : Int64} (h : toInt64? n = some i) : i.toInt = n := by
  unfold toInt64? at h
  split at h
  · next hrange =>
    have hmin : Int64.minValue.toInt = -2 ^ 63 := by decide
    have hmax : Int64.maxValue.toInt = 2 ^ 63 - 1 := by decide
    rw [← Option.some.inj h]
    exact Int64.toInt_ofInt_of_le (by omega) (by omega)
  · cases h

/-- An integer of 64 bits reads back as itself. -/
theorem readInt64?_intText (n : Int64) : readInt64? (intText n.toInt) = some n := by
  rw [readInt64?, readInt?_intText, Option.bind_some, toInt64?_toInt]

end DocQuery.Decimal
