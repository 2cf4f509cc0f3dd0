/-!
# Binary Floating-Point Numbers

The numbers of `Float` seen from the outside: a finite number is a sign and a magnitude
`mantissa * 2 ^ exponent`, with a mantissa below `2 ^ 53`.  In the other direction a quotient
of natural numbers is rounded to the nearest number of this form, a tie going to the even
mantissa.

## Main definitions

- `Magnitude`: mantissa and exponent of a finite number
- `Float64.view`: what a `Float` stands for
- `Float64.nearest`: the `Float` nearest to a quotient
-/

namespace DocQuery.Decimal

/-- The absolute value `mantissa * 2 ^ exponent` of a finite number. -/
structure Magnitude where
  /-- A whole number below `2 ^ 53`. -/
  mantissa : Nat
  /-- The power of two that the mantissa is multiplied by, at least `-1074`. -/
  exponent : Int
deriving DecidableEq

namespace Float64

/-! ## Taking numbers apart -/

/-- What a floating-point number stands for. -/
inductive View where
  | nan
  | infinite (negative : Bool)
  /-- A finite number; zero has a sign as well. -/
  | finite (negative : Bool) (magnitude : Magnitude)
deriving DecidableEq

/-- The bit in front of the fraction, `2 ^ 52`. -/
def leadingBit : Nat := 0x10000000000000

/-- The bit of the sign, `2 ^ 63`. -/
def signBit : Nat := 0x8000000000000000

/-- The magnitude kept in the lower 63 bits of a finite number. -/
def magnitudeOfBits (bits : Nat) : Magnitude :=
  let field : Nat := bits / leadingBit
  let fraction : Nat := bits % leadingBit
  if field = 0 then ⟨fraction, -1074⟩ else ⟨leadingBit + fraction, (field : Int) - 1075⟩

/-- The bits of positive infinity; every finite magnitude is kept in a smaller number. -/
def infinityBits : Nat := 0x7FF * leadingBit

/-- The number that a pattern of 64 bits stands for. -/
def viewBits (bits : Nat) : View :=
  let negative := signBit ≤ bits
  let rest := bits % signBit
  if infinityBits < rest then .nan
  else if rest = infinityBits then .infinite negative
  else .finite negative (magnitudeOfBits rest)

/-- What `x` stands for. -/
def view (x : Float) : View := viewBits x.toBits.toNat

/-! ## Rounding -/

/-- The whole number nearest to `num / den`, a tie going to the even one. -/
def roundHalfEven (num den : Nat) : Nat :=
  let whole := num / den
  let rest := num % den
  if 2 * rest < den then whole
  else if den < 2 * rest then whole + 1
  else whole + whole % 2

/-- `num / den` divided by `2 ^ e`, as a quotient. -/
def scale (num den : Nat) (e : Int) : Nat × Nat :=
  (num * Nat.pow 2 (-e).toNat, den * Nat.pow 2 e.toNat)

/-- The exponent that gives `num / den` a mantissa of 53 bits, or `-1074` when the quotient
is too small for that. -/
def fittingExponent (num den : Nat) : Int :=
  let least : Int := max ((num.log2 : Int) - den.log2 - 53) (-1074)
  let (n, d) := scale num den least
  if n < d * (2 * leadingBit) then least else least + 1

/-- The bits of the nearest nonnegative number to `num / den`.  A mantissa that is rounded up
to `2 ^ 53` carries into the exponent by itself, and a quotient beyond the largest number
becomes infinity. -/
def nearestBits (num den : Nat) : Nat :=
  if num = 0 then 0
  else
    let e := fittingExponent num den
    let (n, d) := scale num den e
    min infinityBits ((e + 1074).toNat * leadingBit + roundHalfEven n d)

/-- The number nearest to `num / den`, with a minus sign if `negative`. -/
def nearest (negative : Bool) (num den : Nat) : Float :=
  Float.ofBits (UInt64.ofNat ((if negative then signBit else 0) + nearestBits num den))

/-- The number nearest to the integer `n`. -/
def ofInt (n : Int) : Float := nearest (n < 0) n.natAbs 1

/-- No number at all. -/
def nan : Float := Float.ofBits 0x7FF8000000000000

/-- An infinity. -/
def infinity (negative : Bool) : Float :=
  Float.ofBits (if negative then 0xFFF0000000000000 else 0x7FF0000000000000)

/-! ## Whole numbers -/

/-- The whole number that `m` stands for, if it is one. -/
def Magnitude.whole? (m : Magnitude) : Option Nat :=
  let shift := Nat.pow 2 (-m.exponent).toNat
  if m.mantissa % shift = 0 then some (m.mantissa / shift * Nat.pow 2 m.exponent.toNat)
  else none

/-- The whole number that `x` stands for, if it is finite and one. -/
def whole? (x : Float) : Option Int :=
  match view x with
  | .finite negative m => (Magnitude.whole? m).map fun n => if negative then -n else n
  | _ => none

/-! ## Small facts -/

theorem roundHalfEven_one (n : Nat) : roundHalfEven n 1 = n := by
  simp [roundHalfEven, Nat.mod_one]

end Float64

end DocQuery.Decimal
