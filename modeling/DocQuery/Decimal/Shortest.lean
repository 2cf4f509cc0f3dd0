import DocQuery.Decimal.Binary

/-!
# Shortest Decimals

Every finite magnitude is the nearest one to all decimals of an interval around it.  The
decimal written for it is one with the fewest digits in that interval, and of those the
nearest to the magnitude.

The ends of the interval lie half way to the neighbouring magnitudes; they belong to it when
the mantissa is even, because ties are rounded to even mantissas.  For each number of digits
only two decimals can be meant, the neighbours of the magnitude on the grid of that width:
if any point of the grid lies in the interval, then so does one of these.

## Main definitions

- `Scientific`: a coefficient times a power of ten
- `shortest`: the decimal that is written for a magnitude
-/

namespace DocQuery.Decimal

/-- The number `coefficient * 10 ^ exponent`. -/
structure Scientific where
  /-- The digits, read as one whole number. -/
  coefficient : Nat
  /-- The power of ten that the coefficient is multiplied by. -/
  exponent : Int
deriving DecidableEq, Repr

/-- Which of two equally near neighbours is taken. -/
inductive Tie where
  /-- The larger one. -/
  | larger
  /-- The one with an even last digit. -/
  | even
deriving DecidableEq

/-- The interval of numbers that are rounded to a magnitude.  All four numbers share the
denominator `unit`. -/
structure Interval where
  /-- The lower end. -/
  low : Nat
  /-- The magnitude itself. -/
  middle : Nat
  /-- The upper end. -/
  high : Nat
  /-- The common denominator. -/
  unit : Nat
  /-- Whether the ends belong to the interval. -/
  closed : Bool

namespace Interval

/-- The interval around `m`.  Below the least mantissa of an exponent the neighbours are half
as far apart as above it. -/
def around (m : Magnitude) : Interval :=
  let factor := Nat.pow 2 (m.exponent - 2).toNat
  let below := if m.mantissa = Float64.leadingBit ∧ -1074 < m.exponent then 1 else 2
  { low := (4 * m.mantissa - below) * factor
    middle := 4 * m.mantissa * factor
    high := (4 * m.mantissa + 2) * factor
    unit := Nat.pow 2 (2 - m.exponent).toNat
    closed := m.mantissa % 2 == 0 }

/-- Whether the decimal `d` lies in the interval. -/
def holds (i : Interval) (d : Scientific) : Bool :=
  let point := d.coefficient * Nat.pow 10 d.exponent.toNat * i.unit
  let shift := Nat.pow 10 (-d.exponent).toNat
  if i.closed then i.low * shift ≤ point && point ≤ i.high * shift
  else i.low * shift < point && point < i.high * shift

/-- The largest multiple of `10 ^ e` that is not above the middle. -/
def floorOn (i : Interval) (e : Int) : Scientific :=
  ⟨i.middle * Nat.pow 10 (-e).toNat / (i.unit * Nat.pow 10 e.toNat), e⟩

/-- Whether the middle is nearer to `d` than to the next decimal of the same exponent, or as
near to both and the tie goes to `d`. -/
def prefers (i : Interval) (tie : Tie) (d : Scientific) : Bool :=
  let twice := 2 * i.middle * Nat.pow 10 (-d.exponent).toNat
  let between := (2 * d.coefficient + 1) * (i.unit * Nat.pow 10 d.exponent.toNat)
  twice < between || (twice == between && tie == .even && d.coefficient % 2 == 0)

/-- The one of the middle's two neighbours among the multiples of `10 ^ e` that lies in the
interval; the preferred one if both do. -/
def onGrid? (i : Interval) (tie : Tie) (e : Int) : Option Scientific :=
  let lower := i.floorOn e
  let upper : Scientific := ⟨lower.coefficient + 1, e⟩
  match i.holds lower, i.holds upper with
  | true, true => some (if i.prefers tie lower then lower else upper)
  | true, false => some lower
  | false, true => some upper
  | false, false => none

/-- How often `num` can be multiplied by ten while staying below `den`, up to `limit`. -/
def leadingZeros : Nat → Nat → Nat → Nat
  | 0, _, _ => 0
  | limit + 1, num, den => if den ≤ num * 10 then 0 else leadingZeros limit (num * 10) den + 1

/-- The position of the first digit of the middle: the `p` with
`10 ^ (p - 1) ≤ middle / unit < 10 ^ p`. -/
def position (i : Interval) : Int :=
  if i.unit ≤ i.middle then (Nat.toDigits 10 (i.middle / i.unit)).length
  else -(leadingZeros 400 i.middle i.unit : Int)

end Interval

/-- A coefficient of ten is written with one digit. -/
def Scientific.trim (d : Scientific) : Scientific :=
  if d.coefficient = 10 then ⟨1, d.exponent + 1⟩ else d

/-- The decimal written for a magnitude other than zero.  Seventeen digits always suffice. -/
def shortest (tie : Tie) (m : Magnitude) : Scientific :=
  let i := Interval.around m
  let p := i.position
  match (List.range 17).findSome? fun (n : Nat) => i.onGrid? tie (p - 1 - (n : Int)) with
  | some d => d.trim
  | none => i.floorOn (p - 17)

/-! ## Examples

The sum of a tenth and two tenths needs all seventeen digits, the least magnitude only
one. -/

example : shortest .larger ⟨5404319552844596, -54⟩ = ⟨30000000000000004, -17⟩ := by
  decide +kernel

example : shortest .larger ⟨1, -1074⟩ = ⟨5, -324⟩ := by
  decide +kernel

end DocQuery.Decimal
