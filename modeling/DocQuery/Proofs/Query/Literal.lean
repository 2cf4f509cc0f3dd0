import Mathlib
import DocQuery.Proofs.Expression.Spelling
import DocQuery.Proofs.Path.Dotted
import DocQuery.Query.Filter

/-!
# Literals and Their Tokens

The literal for a value is a text, and this text has the tokens that it should have wherever it is
put: it does not run together with what stands apart from it, a negative number comes in
parentheses of its own, and a number is read back as itself.

## Main definitions

- `literalTokens?`: the tokens of the literal for a value
- `Value.Legible`: the values whose literals can be read
- `Spells`: a text that has certain tokens, whatever stands apart from it

## Main statements

- `spells_literal`: the literal for a value has the tokens that it should have
-/

namespace DocQuery

open DocQuery.Text DocQuery.Decimal DocQuery.Expression
open DocQuery.Path (isBareChar IsBareName ne_of_holds)

/-! ## Values as tokens -/

/-- Characters that would end a string, or that a filter takes out. -/
def isDelimiter (c : Char) : Bool := c == Cursor.quote || c == '[' || c == ']'

/-- The tokens of a negative number of the given size. -/
def negatedTokens (size : Float) : List Token :=
  [.leftParen, .number 0, .binary .subtract, .number size, .rightParen]

/-- The tokens of the literal for a value; absent values and containers have none. -/
def literalTokens? : Value → Option (List Token)
  | .bool b => some [.word (if b then "true" else "false")]
  | .integer n =>
    some (if n.toInt < 0 then negatedTokens (Float64.ofInt (-n.toInt))
      else [.number (Float64.ofInt n.toInt)])
  | .float x =>
    some (if x == 0 then [.number 0] else if x < 0 then negatedTokens (-x) else [.number x])
  | .string s =>
    some (if isOneOf truthyWords s.toList then [.word "true"]
      else if isOneOf falsyWords s.toList then [.word "false"]
      else [.string s])
  | .null | .container _ => none

/-- A value whose literal can be read: a finite number, a string without delimiters, or anything
else. -/
def Value.Legible : Value → Prop
  | .float x => x.isFinite = true
  | .string s => ∀ c ∈ s.toList, isDelimiter c = false
  | _ => True

/-! ## Spelling literals -/

/-- The text has these tokens, whatever stands apart from it, and no brackets. -/
structure Spells (cs : List Char) (ts : List Token) : Prop where
  reads : ∀ {rest us}, Apart rest → Reads rest us → Reads (cs ++ rest) (ts ++ us)
  no_bracket : ∀ c ∈ cs, c ≠ '[' ∧ c ≠ ']'

theorem spells_word {name : String} (hname : IsBareName name)
    (hdigit : ∀ c ∈ name.toList.head?, c.isDigit = false) : Spells name.toList [.word name] where
  reads := by
    intro rest us hrest h
    obtain ⟨c, cs, hcons⟩ := List.exists_cons_of_ne_nil hname.1
    have hstring : name = String.ofList (c :: cs) := by
      rw [← hcons, String.ofList_toList]
    rw [hcons] at hdigit ⊢
    rw [hstring]
    apply h.word hrest (hdigit c rfl)
    rw [← hcons]
    exact hname.2
  no_bracket := by
    intro c hc
    exact ⟨ne_of_holds (hname.2 c hc) (by decide), ne_of_holds (hname.2 c hc) (by decide)⟩

theorem spells_number {whole fraction : List Char} (hfixed : IsFixed whole fraction) :
    Spells (fixedText whole fraction) [.number (ofFixed whole fraction)] where
  reads := fun hrest h => h.number hrest hfixed
  no_bracket := by
    intro c hc
    rcases mem_fixedText hfixed hc with rfl | hdigit
    · decide
    · constructor <;> (rintro rfl; exact absurd hdigit (by decide))

theorem spells_string {text : List Char} (htext : ∀ c ∈ text, isDelimiter c = false) :
    Spells (Cursor.quote :: (text ++ [Cursor.quote])) [.string (String.ofList text)] where
  reads := by
    intro rest us _ h
    apply h.string
    intro hmem
    exact absurd (htext Cursor.quote hmem) (by decide)
  no_bracket := by
    intro c hc
    simp only [List.mem_cons, List.mem_append, List.not_mem_nil, or_false] at hc
    rcases hc with rfl | hc | rfl
    · decide
    · have hdelimiter := htext c hc
      simp only [isDelimiter, Bool.or_eq_false_iff, beq_eq_false_iff_ne] at hdelimiter
      exact ⟨hdelimiter.1.2, hdelimiter.2⟩
    · decide

/-- A negative number is written as a difference in parentheses. -/
theorem spells_negated {size : List Char} {x : Float} (hsize : Spells size [.number x]) :
    Spells (negated size) (negatedTokens x) where
  reads := by
    intro rest us hrest h
    have hzero : IsFixed ['0'] [] := ⟨by simp, by simp, by simp⟩
    have hminus : Cursor.operator? ['-'] = some (.binary .subtract, 1) := rfl
    -- read from the end: the parenthesis, the size, the minus sign, the zero
    have hread := (hsize.reads (apart_rightParen rest) h.rightParen).space.operator
      (apart_space _) hminus
    have hread' := (hread.space.number (apart_space _) hzero).leftParen
    have hvalue : ofFixed ['0'] [] = 0 := by decide +kernel
    rw [hvalue] at hread'
    simpa [negated, negatedTokens, fixedText] using hread'
  no_bracket := by
    intro c hc
    simp only [negated, List.mem_append, List.mem_cons, List.not_mem_nil, or_false] at hc
    rcases hc with (hc | hc) | rfl
    · rcases hc with rfl | rfl | rfl | rfl | rfl <;> decide
    · exact hsize.no_bracket c hc
    · decide

theorem spells_operator {spelling : List Char} {op : Operator}
    (hspelling : Cursor.operator? spelling = some (op, spelling.length)) :
    Spells spelling [.operator op] where
  reads := fun hrest h => h.operator hrest hspelling
  no_bracket := by
    intro c hc
    have hmem := mem_operatorChars hspelling hc
    constructor <;> (rintro rfl; exact absurd hmem (by decide))

theorem spells_whole (n : Nat) : Spells (natText n) [.number (Float64.ofInt n)] := by
  have hspells := spells_number (isFixed_natText n)
  rwa [fixedText_natText, ofFixed_natText] at hspells

/-- A positive number is spelled with the digits that are read back as the number. -/
theorem spells_positive {x : Float} (hx : Float64.IsPositive x) :
    Spells (Layout.positional.text x) [.number x] := by
  obtain ⟨whole, fraction, htext, hfixed, hread⟩ := exists_fixedText hx
  have hspells := spells_number hfixed
  rwa [hread, ← htext] at hspells

theorem spells_truth (b : Bool) :
    Spells (if b then ['t', 'r', 'u', 'e'] else ['f', 'a', 'l', 's', 'e'])
      [.word (if b then "true" else "false")] := by
  cases b with
  | true =>
    show Spells "true".toList [.word "true"]
    apply spells_word ⟨by simp, ?_⟩ (by simp)
    simp [isBareChar, Char.isAlphanum, Char.isAlpha, Char.isLower]
  | false =>
    show Spells "false".toList [.word "false"]
    apply spells_word ⟨by simp, ?_⟩ (by simp)
    simp [isBareChar, Char.isAlphanum, Char.isAlpha, Char.isLower]

/-- The literal for a value has the tokens that it should have. -/
theorem spells_literal {v : Value} (hlegible : v.Legible) {cs : List Char}
    (hliteral : literal? v = some cs) : ∃ ts, literalTokens? v = some ts ∧ Spells cs ts := by
  have htrue := spells_truth true
  have hfalse := spells_truth false
  cases v with
  | null => cases hliteral
  | container g => cases hliteral
  | bool b =>
    refine ⟨_, rfl, ?_⟩
    cases hliteral
    exact spells_truth b
  | integer n =>
    refine ⟨_, rfl, ?_⟩
    cases hliteral
    -- a negative number is written as a difference from zero
    unfold integerLiteral
    split
    · next hneg =>
      have hsize : (n.toInt.natAbs : ℤ) = -n.toInt := by omega
      rw [← hsize]
      exact spells_negated (spells_whole _)
    · next hnonneg =>
      have hsize : (n.toInt.natAbs : ℤ) = n.toInt := by omega
      have hspells := spells_whole n.toInt.natAbs
      rwa [hsize] at hspells
  | float x =>
    have hfinite : x.isFinite = true := hlegible
    refine ⟨_, rfl, ?_⟩
    cases hliteral
    unfold floatLiteral
    -- zero is written without a point
    split
    · have hzero : Float64.ofInt (0 : ℕ) = 0 := by decide +kernel
      have hspells := spells_whole 0
      rwa [hzero] at hspells
    · next hzero =>
      split
      · next hneg => exact spells_negated (spells_positive (Float64.isPositive_neg hfinite hneg))
      · next hnonneg =>
        apply spells_positive
        exact Float64.isPositive_of_not_lt hfinite (Bool.eq_false_of_not_eq_true hzero) hnonneg
  | string s =>
    refine ⟨_, rfl, ?_⟩
    cases hliteral
    -- words for truth values are written as such, and all other strings between quotes
    unfold stringLiteral
    split
    · exact htrue
    · split
      · exact hfalse
      · have hspells := spells_string hlegible
        rwa [String.ofList_toList] at hspells

end DocQuery
