import DocQuery.Decimal.Shortest

/-!
# Layout of Floating-Point Numbers

How the decimal chosen for a floating-point number is written: where positional notation
ends, how whole numbers look, which way ties go.  A `Layout` collects these decisions.

Two layouts are in use.  `Layout.positional` writes every number without an exponent and
whole numbers without a fraction.  `Layout.interchange` always shows that a number is a
floating-point number, by a fraction or by an exponent.
-/

namespace DocQuery.Decimal

/-- The decisions that fix the text of a floating-point number. -/
structure Layout where
  /-- The positions of the first digit that are written without an exponent; `none` for
  all. -/
  positionalRange : Option (Int × Int)
  /-- What is written behind a whole number in positional notation. -/
  wholeEnding : List Char
  /-- Which of two equally near decimals is taken. -/
  tie : Tie
  /-- The text for no number. -/
  nan : List Char
  /-- The text for infinity, without a sign. -/
  infinity : List Char

namespace Layout

/-- No exponents, and whole numbers as integers are written. -/
def positional : Layout where
  positionalRange := none
  wholeEnding := []
  tie := .larger
  nan := ['N', 'a', 'N']
  infinity := ['i', 'n', 'f']

/-- Exponents below `0.00001` and from `10 ^ 16` on, and a fraction on every whole number. -/
def interchange : Layout where
  positionalRange := some (-4, 16)
  wholeEnding := ['.', '0']
  tie := .even
  nan := ['N', 'a', 'N']
  infinity := ['i', 'n', 'f']

/-- `d` in positional notation. -/
def positionalText (l : Layout) (d : Scientific) : List Char :=
  let digits := Nat.toDigits 10 d.coefficient
  if 0 ≤ d.exponent then digits ++ List.replicate d.exponent.toNat '0' ++ l.wholeEnding
  else
    let fractionLength := (-d.exponent).toNat
    if fractionLength < digits.length then
      let wholeLength := digits.length - fractionLength
      digits.take wholeLength ++ '.' :: digits.drop wholeLength
    else '0' :: '.' :: (List.replicate (fractionLength - digits.length) '0' ++ digits)

/-- `d` with one digit before the point and an exponent that always has a sign. -/
def exponentText (d : Scientific) : List Char :=
  let digits := Nat.toDigits 10 d.coefficient
  let power : Int := d.exponent + digits.length - 1
  let fraction := if digits.length ≤ 1 then [] else '.' :: digits.drop 1
  digits.take 1 ++ fraction ++ 'e' :: (if power < 0 then '-' else '+') ::
    Nat.toDigits 10 power.natAbs

/-- The text of a decimal other than zero. -/
def decimalText (l : Layout) (d : Scientific) : List Char :=
  let position : Int := d.exponent + (Nat.toDigits 10 d.coefficient).length
  match l.positionalRange with
  | some (first, last) =>
    if first ≤ position ∧ position ≤ last then l.positionalText d else exponentText d
  | none => l.positionalText d

/-- The text of a magnitude. -/
def magnitudeText (l : Layout) (m : Magnitude) : List Char :=
  if m.mantissa = 0 then '0' :: l.wholeEnding else l.decimalText (shortest l.tie m)

/-- The text of what a number stands for. -/
def viewText (l : Layout) : Float64.View → List Char
  | .nan => l.nan
  | .infinite negative => if negative then '-' :: l.infinity else l.infinity
  | .finite negative m => if negative then '-' :: l.magnitudeText m else l.magnitudeText m

/-- The text of the number `x`. -/
def text (l : Layout) (x : Float) : List Char := l.viewText (Float64.view x)

/-! ## Examples -/

example : positional.text 0.1 = ['0', '.', '1'] := by decide +kernel
example : positional.text (-0.0) = ['-', '0'] := by decide +kernel
example : interchange.text 10.0 = ['1', '0', '.', '0'] := by decide +kernel
example : interchange.text 1e16 = ['1', 'e', '+', '1', '6'] := by decide +kernel
example : interchange.text 1.5e-7 = ['1', '.', '5', 'e', '-', '7'] := by decide +kernel

end Layout

end DocQuery.Decimal
