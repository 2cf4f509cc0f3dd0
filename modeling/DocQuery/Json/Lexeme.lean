import DocQuery.Decimal.Reading
import DocQuery.Json.Tree

/-!
# Lexemes of JSON

A JSON text is first cut into brackets, separators, words, numbers and strings.

Numbers are read in two steps.  The digits of whole part and fraction are collected into a
significand of at most 64 bits; digits that do not fit any more only count as powers of ten.
The significand is then multiplied or divided by the power of ten that is left.  A number too
large to be finite is no number.

## Main definitions

- `Lexeme.next?`: one lexeme
- `lexemes?`: the lexemes of a text
- `NumberLiteral.value?`: the number that a literal stands for
-/

namespace DocQuery.Json

open DocQuery.Decimal

/-- A lexeme of a JSON text. -/
inductive Lexeme where
  /-- `[` -/
  | openArray
  /-- `]` -/
  | closeArray
  /-- An opening brace -/
  | openObject
  /-- A closing brace -/
  | closeObject
  /-- `:` -/
  | colon
  | comma
  | null
  | bool (b : Bool)
  | number (n : Number)
  | string (s : String)
deriving DecidableEq

/-! ## Numbers -/

/-- The parts of a number as it is written. -/
structure NumberLiteral where
  /-- Whether there is a minus sign -/
  negative : Bool
  /-- The digits before the point -/
  whole : List Char
  /-- The digits behind the point, if there is one -/
  fraction : Option (List Char)
  /-- The sign and the digits of the exponent, if there is one -/
  exponent : Option (Bool × List Char)
deriving DecidableEq

namespace NumberLiteral

/-- Appends digits to a significand as long as it fits 64 bits: the significand, and how many
digits were left over. -/
def append (significand : Nat) : List Char → Nat × Nat
  | [] => (significand, 0)
  | d :: ds =>
    let longer := 10 * significand + (d.toNat - 48)
    if longer < UInt64.size then append longer ds else (significand, ds.length + 1)

/-- The power of ten as a floating-point number. -/
def power (e : Nat) : Float := scaled false 1 e

/-- `x` divided by `10 ^ e`, in steps of at most 308. -/
def divide (x : Float) (e : Nat) : Float :=
  if e ≤ 308 then x / power e
  else if x == 0 then x
  else divide (x / power 308) (e - 308)
termination_by e
decreasing_by omega

/-- The floating-point number `significand * 10 ^ exponent`, unless it is too large. -/
def magnitude? (significand : Nat) (exponent : Int) : Option Float :=
  let x := Float64.ofInt significand
  if exponent < 0 then some (divide x exponent.natAbs)
  else if 308 < exponent then (if significand = 0 then some x else none)
  else
    let y := x * power exponent.toNat
    if y.isInf then none else some y

/-- The largest exponent whose digits are still read. -/
def maxExponent : Nat := 2147483647

/-- `x` with a minus sign in front, if `negative`. -/
def withSign (negative : Bool) (x : Float) : Float := if negative then -x else x

/-- The number that a literal with a fraction or an exponent stands for. -/
def float? (l : NumberLiteral) : Option Float :=
  let (significand, dropped) := append 0 l.whole
  let fraction := l.fraction.getD []
  let (significand, left) := append significand fraction
  let shift : Int := dropped - (fraction.length - left : Nat)
  let size := match l.exponent with
    | none => magnitude? significand shift
    | some (negative, digits) =>
      let e := Nat.ofDigitChars 10 digits 0
      if maxExponent < e then
        if significand = 0 ∨ negative then some (Float64.ofInt 0) else none
      else magnitude? significand (if negative then shift - e else shift + e)
  size.map (withSign l.negative)

/-- The number that a literal stands for, unless it is too large.  Digits alone are a whole
number if it fits 64 bits; minus zero is not one. -/
def value? (l : NumberLiteral) : Option Number :=
  let n := Nat.ofDigitChars 10 l.whole 0
  if l.fraction.isNone && l.exponent.isNone && n < UInt64.size then
    if !l.negative then some (.integer n)
    else if n = 0 ∨ UInt64.size / 2 < n then some (.float (-(Float64.ofInt n)))
    else some (.integer (-n))
  else l.float?.map .float

/-- Splits digits off the front; there must be at least one. -/
def digits? (cs : List Char) : Option (List Char × List Char) :=
  let ds := cs.takeWhile Char.isDigit
  if ds.isEmpty then none else some (ds, cs.dropWhile Char.isDigit)

/-- Reads the digits before the point: a zero alone, or digits that do not begin with one. -/
def whole? : List Char → Option (List Char × List Char)
  | '0' :: c :: rest => if c.isDigit then none else some (['0'], c :: rest)
  | cs => digits? cs

/-- Reads a fraction, if there is one. -/
def fraction? : List Char → Option (Option (List Char) × List Char)
  | '.' :: rest => (digits? rest).map fun (ds, rest) => (some ds, rest)
  | cs => some (none, cs)

/-- Reads an exponent, if there is one. -/
def exponent? : List Char → Option (Option (Bool × List Char) × List Char)
  | [] => some (none, [])
  | c :: rest =>
    if c = 'e' ∨ c = 'E' then
      let (negative, rest) := match rest with
        | '-' :: rest => (true, rest)
        | '+' :: rest => (false, rest)
        | _ => (false, rest)
      (digits? rest).map fun (ds, rest) => (some (negative, ds), rest)
    else some (none, c :: rest)

/-- Reads a number. -/
def read? (cs : List Char) : Option (NumberLiteral × List Char) := do
  let (negative, cs) := match cs with
    | '-' :: rest => (true, rest)
    | _ => (false, cs)
  let (whole, cs) ← whole? cs
  let (fraction, cs) ← fraction? cs
  let (exponent, cs) ← exponent? cs
  return (⟨negative, whole, fraction, exponent⟩, cs)

end NumberLiteral

/-! ## Strings -/

/-- The value of a hexadecimal digit. -/
def hexDigit? (c : Char) : Option Nat :=
  if c.isDigit then some (c.toNat - 48)
  else if 'a' ≤ c ∧ c ≤ 'f' then some (c.toNat - 87)
  else if 'A' ≤ c ∧ c ≤ 'F' then some (c.toNat - 55)
  else none

/-- The number written by four hexadecimal digits. -/
def hex4? (a b c d : Char) : Option Nat := do
  let a ← hexDigit? a
  let b ← hexDigit? b
  let c ← hexDigit? c
  let d ← hexDigit? d
  return ((a * 16 + b) * 16 + c) * 16 + d

/-- The character that an escape by a letter or a mark stands for. -/
def unescape? : Char → Option Char
  | '"' => some '"'
  | '\\' => some '\\'
  | '/' => some '/'
  | 'b' => some '\x08'
  | 'f' => some '\x0c'
  | 'n' => some '\n'
  | 'r' => some '\r'
  | 't' => some '\t'
  | _ => none

/-- Whether `n` is the first half of a character beyond U+FFFF. -/
def isHighSurrogate (n : Nat) : Bool := 0xD800 ≤ n && n < 0xDC00

/-- Whether `n` is the second half of a character beyond U+FFFF. -/
def isLowSurrogate (n : Nat) : Bool := 0xDC00 ≤ n && n < 0xE000

/-- The number written by an escape with four digits at the front, and what follows it. -/
def readEscape? : List Char → Option (Nat × List Char)
  | '\\' :: 'u' :: a :: b :: c :: d :: rest => (hex4? a b c d).map (·, rest)
  | _ => none

/-- Reads a character that is given by its number, if there is one at the front.  A character
beyond U+FFFF is given in two halves, and a half must not stand alone. -/
def readNumbered? (cs : List Char) : Option (Char × List Char) := do
  let (n, rest) ← readEscape? cs
  if isLowSurrogate n then none
  else if isHighSurrogate n then
    let (m, rest) ← readEscape? rest
    if isLowSurrogate m then
      return (Char.ofNat (0x10000 + (n - 0xD800) * 0x400 + (m - 0xDC00)), rest)
    else none
  else return (Char.ofNat n, rest)

/-- Reads one character of a string. -/
def readChar? : List Char → Option (Char × List Char)
  | [] => none
  | '\\' :: 'u' :: rest => readNumbered? ('\\' :: 'u' :: rest)
  | '\\' :: c :: rest => (unescape? c).map (·, rest)
  | c :: rest => if c.toNat < 32 ∨ c = '\\' then none else some (c, rest)

theorem length_readEscape? {cs rest : List Char} {n : Nat} (h : readEscape? cs = some (n, rest)) :
    rest.length < cs.length := by
  unfold readEscape? at h
  split at h
  · obtain ⟨m, -, hm⟩ := Option.map_eq_some_iff.mp h
    obtain ⟨-, rfl⟩ := Prod.mk.inj hm
    simp
    omega
  · cases h

theorem length_readNumbered? {cs rest : List Char} {c : Char}
    (h : readNumbered? cs = some (c, rest)) : rest.length < cs.length := by
  unfold readNumbered? at h
  obtain ⟨⟨n, r⟩, h₁, h⟩ := Option.bind_eq_some_iff.mp h
  have hr := length_readEscape? h₁
  simp only at h
  split at h
  · cases h
  split at h
  · obtain ⟨⟨m, r'⟩, h₂, h⟩ := Option.bind_eq_some_iff.mp h
    have hr' := length_readEscape? h₂
    simp only at h
    split at h
    · simp only [pure, Option.some.injEq, Prod.mk.injEq] at h
      obtain ⟨-, rfl⟩ := h
      omega
    · cases h
  · simp only [pure, Option.some.injEq, Prod.mk.injEq] at h
    obtain ⟨-, rfl⟩ := h
    exact hr

/-- A character of a string takes at least one character of the text. -/
theorem length_readChar? {cs rest : List Char} {c : Char} (h : readChar? cs = some (c, rest)) :
    rest.length < cs.length := by
  unfold readChar? at h
  split at h
  · cases h
  · exact length_readNumbered? h
  · obtain ⟨d, -, hd⟩ := Option.map_eq_some_iff.mp h
    obtain ⟨-, rfl⟩ := Prod.mk.inj hd
    simp only [List.length_cons]
    omega
  · split at h
    · cases h
    · simp only [Option.some.injEq, Prod.mk.injEq] at h
      obtain ⟨-, rfl⟩ := h
      simp

/-- Reads a string behind its opening quote: its characters, and what follows the closing
quote. -/
def readString (cs : List Char) : Option (List Char × List Char) :=
  match cs with
  | '"' :: rest => some ([], rest)
  | cs =>
    match _h : readChar? cs with
    | none => none
    | some (c, rest) =>
      match readString rest with
      | none => none
      | some (body, left) => some (c :: body, left)
termination_by cs.length
decreasing_by exact length_readChar? _h

/-! ## Lexemes -/

/-- Whether `c` may stand between lexemes. -/
def isBlank (c : Char) : Bool := c == ' ' || c == '\n' || c == '\t' || c == '\r'

/-- Reads one lexeme. -/
def Lexeme.next? : List Char → Option (Lexeme × List Char)
  | '[' :: rest => some (openArray, rest)
  | ']' :: rest => some (closeArray, rest)
  | '\x7b' :: rest => some (openObject, rest)
  | '\x7d' :: rest => some (closeObject, rest)
  | ':' :: rest => some (colon, rest)
  | ',' :: rest => some (comma, rest)
  | 'n' :: 'u' :: 'l' :: 'l' :: rest => some (null, rest)
  | 't' :: 'r' :: 'u' :: 'e' :: rest => some (bool true, rest)
  | 'f' :: 'a' :: 'l' :: 's' :: 'e' :: rest => some (bool false, rest)
  | '"' :: rest => (readString rest).map fun (cs, left) => (string (String.ofList cs), left)
  | cs => do
    let (literal, rest) ← NumberLiteral.read? cs
    let n ← literal.value?
    return (number n, rest)

/-! ## Progress -/

namespace NumberLiteral

theorem length_digits? {cs ds rest : List Char} (h : digits? cs = some (ds, rest)) :
    rest.length < cs.length := by
  unfold digits? at h
  simp only at h
  split at h
  · cases h
  · next hne =>
    simp only [Option.some.injEq, Prod.mk.injEq] at h
    obtain ⟨-, rfl⟩ := h
    have hlen := congrArg List.length (List.takeWhile_append_dropWhile :
      cs.takeWhile Char.isDigit ++ cs.dropWhile Char.isDigit = cs)
    rw [List.length_append] at hlen
    have : 0 < (cs.takeWhile Char.isDigit).length := by
      rw [List.length_pos_iff]
      simpa using hne
    omega

theorem length_whole? {cs ds rest : List Char} (h : whole? cs = some (ds, rest)) :
    rest.length < cs.length := by
  unfold whole? at h
  split at h
  · split at h
    · cases h
    · simp only [Option.some.injEq, Prod.mk.injEq] at h
      obtain ⟨-, rfl⟩ := h
      simp
  · exact length_digits? h

theorem length_fraction? {cs rest : List Char} {ds : Option (List Char)}
    (h : fraction? cs = some (ds, rest)) : rest.length ≤ cs.length := by
  unfold fraction? at h
  split at h
  · obtain ⟨⟨ds', r⟩, h₁, h₂⟩ := Option.map_eq_some_iff.mp h
    obtain ⟨-, rfl⟩ := Prod.mk.inj h₂
    have := length_digits? h₁
    simp only [List.length_cons]
    omega
  · simp only [Option.some.injEq, Prod.mk.injEq] at h
    obtain ⟨-, rfl⟩ := h
    exact Nat.le_refl _

theorem length_exponent? {cs rest : List Char} {e : Option (Bool × List Char)}
    (h : exponent? cs = some (e, rest)) : rest.length ≤ cs.length := by
  unfold exponent? at h
  split at h
  · simp only [Option.some.injEq, Prod.mk.injEq] at h
    obtain ⟨-, rfl⟩ := h
    exact Nat.le_refl _
  · next c cs' =>
    split at h
    · obtain ⟨⟨ds, r⟩, h₁, h₂⟩ := Option.map_eq_some_iff.mp h
      obtain ⟨-, rfl⟩ := Prod.mk.inj h₂
      have hlt := length_digits? h₁
      split at hlt <;> simp_all <;> omega
    · simp only [Option.some.injEq, Prod.mk.injEq] at h
      obtain ⟨-, rfl⟩ := h
      exact Nat.le_refl _

/-- A number takes at least one character. -/
theorem length_read? {cs rest : List Char} {l : NumberLiteral} (h : read? cs = some (l, rest)) :
    rest.length < cs.length := by
  unfold read? at h
  simp only at h
  obtain ⟨⟨ds, r₁⟩, h₁, h⟩ := Option.bind_eq_some_iff.mp h
  obtain ⟨⟨fs, r₂⟩, h₂, h⟩ := Option.bind_eq_some_iff.mp h
  obtain ⟨⟨es, r₃⟩, h₃, h⟩ := Option.bind_eq_some_iff.mp h
  simp only [pure, Option.some.injEq, Prod.mk.injEq] at h
  obtain ⟨-, rfl⟩ := h
  have a₁ := length_whole? h₁
  have a₂ := length_fraction? h₂
  have a₃ := length_exponent? h₃
  split at a₁ <;> simp_all <;> omega

end NumberLiteral

theorem length_readString {cs body rest : List Char} (h : readString cs = some (body, rest)) :
    rest.length < cs.length := by
  fun_induction readString cs generalizing body rest
  case case4 ch left hc tail after hs ih =>
    simp only [Option.some.injEq, Prod.mk.injEq] at h
    obtain ⟨-, rfl⟩ := h
    exact Nat.lt_trans (ih hs) (length_readChar? hc)
  all_goals simp_all

/-- A lexeme takes at least one character. -/
theorem Lexeme.length_next? {cs rest : List Char} {l : Lexeme} (h : next? cs = some (l, rest)) :
    rest.length < cs.length := by
  unfold next? at h
  split at h
  case h_10 r =>
    obtain ⟨⟨b, r'⟩, h₁, h₂⟩ := Option.map_eq_some_iff.mp h
    obtain ⟨-, rfl⟩ := Prod.mk.inj h₂
    have := length_readString h₁
    simp only [List.length_cons]
    omega
  case h_11 =>
    obtain ⟨⟨lit, r'⟩, h₁, h⟩ := Option.bind_eq_some_iff.mp h
    obtain ⟨n, -, h⟩ := Option.bind_eq_some_iff.mp h
    simp only [pure, Option.some.injEq, Prod.mk.injEq] at h
    obtain ⟨-, rfl⟩ := h
    exact NumberLiteral.length_read? h₁
  all_goals
    simp only [Option.some.injEq, Prod.mk.injEq] at h
    obtain ⟨-, rfl⟩ := h
    simp only [List.length_cons]
    omega

/-- The lexemes of a text, with blanks between them. -/
def lexemes? (cs : List Char) : Option (List Lexeme) :=
  match _h₀ : cs.dropWhile isBlank with
  | [] => some []
  | c :: rest =>
    match _h : Lexeme.next? (c :: rest) with
    | none => none
    | some (l, left) => (lexemes? left).map (l :: ·)
termination_by cs.length
decreasing_by
  have h₁ := Lexeme.length_next? _h
  have h₂ := congrArg List.length
    (List.takeWhile_append_dropWhile : cs.takeWhile isBlank ++ cs.dropWhile isBlank = cs)
  rw [_h₀, List.length_append] at h₂
  omega

end DocQuery.Json
