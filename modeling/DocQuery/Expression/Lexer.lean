import DocQuery.Decimal.Reading
import DocQuery.Expression.Error
import DocQuery.Expression.Token
import DocQuery.Text.Classes

/-!
# Lexer for Filter Expressions

A `Cursor` stands between two characters of a text.  `Cursor.next` skips white space and
reads one token, choosing the longest spelling at its place; `Cursor.tokens` reads on to the
end or to the first defect.

An error for a stray character leaves the cursor before that character, so asking again gives
the same error again.  An unterminated string takes all the text there is.

## Main definitions

- `Cursor.next`: one token, the end, or an error, and the cursor behind it
- `Cursor.tokens`: all tokens up to the end or the first error
- `tokenize`: the tokens of a text

## Main statements

- `Cursor.length_next_lt`: a token takes at least one character
-/

namespace DocQuery.Expression

open DocQuery.Text DocQuery.Decimal

/-- A place in a text: what is still to be read, and how many characters came before. -/
structure Cursor where
  /-- The characters that are still to be read. -/
  rest : List Char
  /-- How many characters have been passed. -/
  position : Nat
deriving DecidableEq

/-- What a cursor finds. -/
inductive Lexeme where
  | token (t : Token)
  /-- Nothing but white space up to the end -/
  | ended
  /-- Text that is no token -/
  | failed (e : LexicalError)
deriving DecidableEq

namespace Cursor

/-- The cursor before the first character of `text`. -/
def start (text : String) : Cursor := ⟨text.toList, 0⟩

/-- The cursor `n` characters further on. -/
def advance (c : Cursor) (n : Nat) : Cursor :=
  ⟨c.rest.drop n, c.position + min n c.rest.length⟩

/-- The cursor behind the white space that starts here. -/
def skipSpaces (c : Cursor) : Cursor := c.advance (c.rest.takeWhile isSpace).length

/-- The quotation mark around strings. -/
def quote : Char := '\x27'

/-- The fraction that follows the whole digits of a number: a point counts only when a digit
stands behind it. -/
def fraction : List Char → List Char
  | '.' :: d :: rest => if d.isDigit then d :: rest.takeWhile Char.isDigit else []
  | _ => []

/-- The spelling of the operator at the front of `cs`, with the operator; the longer spelling
is tried first. -/
def operator? : List Char → Option (Operator × Nat)
  | '+' :: _ => some (.binary .add, 1)
  | '-' :: _ => some (.binary .subtract, 1)
  | '*' :: _ => some (.binary .multiply, 1)
  | '/' :: _ => some (.binary .divide, 1)
  | '^' :: _ => some (.binary .power, 1)
  | '~' :: _ => some (.binary .matching, 1)
  | '&' :: '&' :: _ => some (.binary .and, 2)
  | '&' :: _ => some (.binary .and, 1)
  | '|' :: '|' :: _ => some (.binary .or, 2)
  | '|' :: _ => some (.binary .or, 1)
  | '<' :: '=' :: _ => some (.binary .lessEqual, 2)
  | '<' :: _ => some (.binary .less, 1)
  | '>' :: '=' :: _ => some (.binary .greaterEqual, 2)
  | '>' :: _ => some (.binary .greater, 1)
  | '!' :: '=' :: _ => some (.binary .notEqual, 2)
  | '!' :: _ => some (.negation, 1)
  | '=' :: '=' :: _ => some (.binary .equal, 2)
  | _ => none

/-- What stands at the front of `cs`, which begins with a character other than white space,
and how many characters it takes. -/
def lexeme (cs : List Char) (position : Nat) : Lexeme × Nat :=
  match operator? cs with
  | some (op, n) => (.token (.operator op), n)
  | none =>
    match cs with
    | [] => (.ended, 0)
    | c :: rest =>
      if c = '(' then (.token .leftParen, 1)
      else if c = ')' then (.token .rightParen, 1)
      else if c = '=' then (.failed (.loneEquals position), 0)
      else if c = quote then
        let body := rest.takeWhile (· != quote)
        if body.length < rest.length then
          (.token (.string (String.ofList body)), body.length + 2)
        else (.failed (.unterminatedString position), body.length + 1)
      else if c.isDigit then
        let whole := cs.takeWhile Char.isDigit
        let part := fraction (cs.drop whole.length)
        (.token (.number (ofFixed whole part)),
          whole.length + (if part = [] then 0 else part.length + 1))
      else if isAlphabetic c || c == '_' then
        let name := c :: rest.takeWhile isNameChar
        (.token (.word (String.ofList name)), name.length)
      else (.failed (.unexpectedCharacter c position), 0)

/-- The next token, the end or an error, and the cursor behind it. -/
def next (c : Cursor) : Lexeme × Cursor :=
  let c := c.skipSpaces
  let (found, n) := lexeme c.rest c.position
  (found, c.advance n)

/-! ## Progress -/

theorem length_advance (c : Cursor) (n : Nat) :
    (c.advance n).rest.length = c.rest.length - n := by
  simp [advance]

/-- An operator takes at least one character. -/
theorem operator?_pos {cs : List Char} {op : Operator} {n : Nat}
    (h : operator? cs = some (op, n)) : 0 < n ∧ cs ≠ [] := by
  unfold operator? at h
  split at h <;> simp_all <;> omega

/-- A token takes at least one character, and there is one to take. -/
theorem lexeme_pos {cs : List Char} {p n : Nat} {t : Token}
    (h : lexeme cs p = (.token t, n)) : 0 < n ∧ cs ≠ [] := by
  unfold lexeme at h
  -- in the order in which the beginning of the text is asked: an operator, a parenthesis, a lone
  -- equals sign, a quote, a digit, and the start of a name
  split at h
  · next op m hop =>
    obtain ⟨-, rfl⟩ := Prod.mk.inj h
    exact operator?_pos hop
  · split at h
    · simp at h
    · next c rest =>
      refine ⟨?_, by simp⟩
      split at h
      · obtain ⟨-, rfl⟩ := Prod.mk.inj h; decide
      split at h
      · obtain ⟨-, rfl⟩ := Prod.mk.inj h; decide
      split at h
      · simp at h
      split at h
      · simp only at h
        split at h
        · obtain ⟨-, rfl⟩ := Prod.mk.inj h; omega
        · simp at h
      split at h
      · next hd =>
        obtain ⟨-, rfl⟩ := Prod.mk.inj h
        refine Nat.add_pos_left ?_ _
        rw [List.takeWhile_cons_of_pos hd, List.length_cons]
        omega
      split at h
      · obtain ⟨-, rfl⟩ := Prod.mk.inj h; simp
      · simp at h

/-- A token leaves less text than there was. -/
theorem length_next_lt {c d : Cursor} {t : Token} (h : c.next = (.token t, d)) :
    d.rest.length < c.rest.length := by
  simp only [next] at h
  obtain ⟨h₁, rfl⟩ := Prod.mk.inj h
  have hp := @lexeme_pos c.skipSpaces.rest c.skipSpaces.position
    (lexeme c.skipSpaces.rest c.skipSpaces.position).2 t (by rw [← h₁])
  have hlen : c.skipSpaces.rest.length ≤ c.rest.length := by
    simp [skipSpaces, length_advance]
  have hne : 0 < c.skipSpaces.rest.length := List.length_pos_iff.mpr hp.2
  rw [length_advance]
  omega

/-! ## All tokens -/

/-- The tokens from here on, up to the end or to the first error. -/
def tokens (c : Cursor) : List Token × Option LexicalError :=
  match _h : c.next with
  | (.token t, d) =>
    let (ts, failure) := d.tokens
    (t :: ts, failure)
  | (.ended, _) => ([], none)
  | (.failed e, _) => ([], some e)
termination_by c.rest.length
decreasing_by exact length_next_lt _h

/-- What `n` calls of `next` find in a row. -/
def lexemes : Nat → Cursor → List Lexeme
  | 0, _ => []
  | n + 1, c => c.next.1 :: lexemes n c.next.2

/-- Calls of `next` that find tokens and then the end have found all tokens there are. -/
theorem tokens_of_lexemes {ts : List Token} {c : Cursor}
    (h : lexemes (ts.length + 1) c = ts.map .token ++ [.ended]) : c.tokens = (ts, none) := by
  induction ts generalizing c with
  | nil =>
    have hnext : c.next.1 = .ended := (List.cons.inj h).1
    rw [tokens]
    split
    · next heq => simp [heq] at hnext
    · rfl
    · next heq => simp [heq] at hnext
  | cons t ts ih =>
    obtain ⟨hnext, hrest⟩ := List.cons.inj h
    rw [tokens]
    split
    · next u d heq =>
      rw [heq] at hnext hrest
      cases hnext
      simp only [ih hrest]
    · next heq => simp [heq] at hnext
    · next heq => simp [heq] at hnext

end Cursor

/-- The tokens of a text. -/
def tokenize (text : String) : Except LexicalError (List Token) :=
  match (Cursor.start text).tokens with
  | (ts, none) => .ok ts
  | (_, some e) => .error e

/-- A text has the tokens that calls of `next` find in it before its end. -/
theorem tokenize_of_lexemes {text : String} {ts : List Token}
    (h : Cursor.lexemes (ts.length + 1) (Cursor.start text) = ts.map .token ++ [.ended]) :
    tokenize text = .ok ts := by
  simp only [tokenize, Cursor.tokens_of_lexemes h]

end DocQuery.Expression
