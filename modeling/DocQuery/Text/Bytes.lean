/-!
# Code Points as Bytes

In UTF-8 a code point takes one to four bytes: a leading byte, and behind it one byte for
every six further bits.  A stretch of code points is therefore the union of a few products
of byte ranges.  `byteSequences` lists these products in ascending order.
-/

namespace DocQuery.Text

/-- The bytes from `first` to `last`. -/
structure ByteRange where
  first : Nat
  last : Nat
deriving DecidableEq, Repr

namespace ByteRange

/-- All bytes that may follow a leading byte. -/
def following : ByteRange := ⟨128, 191⟩

/-- The products for the numbers from `a` to `b`, written with `more` digits to base 64
behind the leading one.  The leading byte is its digit plus `mark`; every other byte is its
digit plus 128. -/
def products : (more mark a b : Nat) → List (List ByteRange)
  | 0, mark, a, b => [[⟨mark + a, mark + b⟩]]
  | more + 1, mark, a, b =>
    let unit := Nat.pow 64 (more + 1)
    let lead (x y : Nat) (rest : List (List ByteRange)) : List (List ByteRange) :=
      rest.map (⟨mark + x, mark + y⟩ :: ·)
    let x := a / unit
    let y := b / unit
    if x = y then lead x y (products more 128 (a % unit) (b % unit))
    else
      let fromStart := a % unit == 0
      let toEnd := b % unit == unit - 1
      let low := if fromStart then [] else lead x x (products more 128 (a % unit) (unit - 1))
      let high := if toEnd then [] else lead y y (products more 128 0 (b % unit))
      let first := if fromStart then x else x + 1
      let stop := if toEnd then y + 1 else y
      let middle :=
        if first < stop then lead first (stop - 1) [List.replicate (more + 1) following] else []
      low ++ middle ++ high

/-- Code points that are written with the same number of bytes. -/
structure Band where
  first : Nat
  last : Nat
  /-- What is added to the leading digit -/
  mark : Nat
  /-- How many bytes follow the leading one -/
  more : Nat

/-- All characters; surrogates, which are none, are left out. -/
def bands : List Band := [
  ⟨0, 127, 0, 0⟩, ⟨128, 2047, 192, 1⟩, ⟨2048, 55295, 224, 2⟩, ⟨57344, 65535, 224, 2⟩,
  ⟨65536, 1114111, 240, 3⟩]

end ByteRange

/-- The products of byte ranges that make up the characters from `first` to `last`. -/
def byteSequences (first last : Nat) : List (List ByteRange) :=
  ByteRange.bands.flatMap fun band =>
    let a := max first band.first
    let b := min last band.last
    if a ≤ b then ByteRange.products band.more band.mark a b else []

/-- The bytes of a character. -/
def bytesOf (c : Char) : List Nat := (String.utf8EncodeChar c).map UInt8.toNat

end DocQuery.Text
