import Mathlib
import DocQuery.Expression.Evaluation
import DocQuery.Proofs.Expression.Lexical

/-!
# Texts of Tokens

A text is read from its end: in front of a text whose tokens are known, one more token can be
written.  Words, numbers and operators have to be kept apart from what follows them, by white
space or by a closing parenthesis; strings and parentheses end where they end.

## Main definitions

- `Reads`: the tokens of a text that has no defect
- `Apart`: what may stand directly behind a token

## Main statements

- `Reads.number`, `Reads.word`, `Reads.string`, `Reads.operator`, `Reads.leftParen`,
  `Reads.rightParen`: one more token in front of a text
- `evaluate_of_reads`: a text is evaluated as its tokens are
-/

namespace DocQuery.Expression

open DocQuery.Text DocQuery.Decimal
open DocQuery.Path (ends_cons isBareChar isNameChar_of_isBareChar toNat_lt_of_isBareChar)

/-- The text has these tokens, wherever it begins, and no defect. -/
def Reads (cs : List Char) (ts : List Token) : Prop :=
  ∀ position, (Cursor.mk cs position).tokens = (ts, none)

/-- The text is empty or begins in a way that ends every token before it. -/
def Apart (rest : List Char) : Prop := ∀ c ∈ rest.head?, c = ' ' ∨ c = ')'

/-- The truth value of a list of tokens. -/
def evaluateTokens (ts : List Token) : Except ExprError Bool := do
  let items ← Yard.convert ts
  evaluatePostfix items

variable {cs rest : List Char} {ts : List Token} {t : Token}

/-! ## Reading one token -/

namespace Cursor

theorem tokens_of_next {c d : Cursor} (h : c.next = (.token t, d)) :
    c.tokens = (t :: d.tokens.1, d.tokens.2) := by
  rw [tokens]
  split
  · next t' d' heq =>
    rw [h] at heq
    cases heq
    rfl
  · next heq => rw [h] at heq; cases heq
  · next heq => rw [h] at heq; cases heq

theorem tokens_of_ended {c d : Cursor} (h : c.next = (.ended, d)) : c.tokens = ([], none) := by
  rw [tokens]
  split
  · next heq => rw [h] at heq; cases heq
  · rfl
  · next heq => rw [h] at heq; cases heq

theorem tokens_of_failed {c d : Cursor} {e : LexicalError} (h : c.next = (.failed e, d)) :
    c.tokens = ([], some e) := by
  rw [tokens]
  split
  · next heq => rw [h] at heq; cases heq
  · next heq => rw [h] at heq; cases heq
  · next heq => rw [h] at heq; cases heq; rfl

theorem tokens_congr {c d : Cursor} (h : c.next = d.next) : c.tokens = d.tokens := by
  rcases hnext : d.next with ⟨found, e⟩
  cases found with
  | token t => rw [tokens_of_next hnext, tokens_of_next (h.trans hnext)]
  | ended => rw [tokens_of_ended hnext, tokens_of_ended (h.trans hnext)]
  | failed failure => rw [tokens_of_failed hnext, tokens_of_failed (h.trans hnext)]

end Cursor

theorem reads_nil : Reads [] [] := by
  intro position
  rw [Cursor.tokens]
  rfl

theorem Reads.blank (h : Reads rest ts) {c : Char} (hspace : isSpace c = true) :
    Reads (c :: rest) ts := by
  intro position
  rw [← h (position + 1)]
  apply Cursor.tokens_congr
  have hskip : (Cursor.mk (c :: rest) position).skipSpaces =
      (Cursor.mk rest (position + 1)).skipSpaces := by
    have hle : (rest.takeWhile isSpace).length ≤ rest.length :=
      (List.takeWhile_sublist _).length_le
    simp only [Cursor.skipSpaces, Cursor.advance, List.takeWhile_cons_of_pos hspace,
      List.length_cons, List.drop_succ_cons, Cursor.mk.injEq, true_and]
    omega
  simp only [Cursor.next, hskip]

theorem Reads.space (h : Reads rest ts) : Reads (' ' :: rest) ts :=
  h.blank (isSpace_eq_of_lt (by decide))

/-- White space in front of a text does not matter. -/
theorem Reads.blanks (h : Reads rest ts) {gap : List Char} (hgap : ∀ c ∈ gap, isSpace c = true) :
    Reads (gap ++ rest) ts := by
  induction gap with
  | nil => exact h
  | cons c gap ih =>
    rw [List.forall_mem_cons] at hgap
    exact (ih hgap.2).blank hgap.1

/-- One more token in front of a text. -/
theorem Reads.token (h : Reads rest ts) (c : Char) (cs : List Char) (hspace : isSpace c = false)
    (hlexeme : ∀ position,
      Cursor.lexeme (c :: cs ++ rest) position = (.token t, (c :: cs).length)) :
    Reads (c :: cs ++ rest) (t :: ts) := by
  intro position
  have hskip := Cursor.skipSpaces_of_gap (c := ⟨c :: cs ++ rest, position⟩)
    (List.nil_append _).symm nofun (ends_cons hspace _)
  have hnext : (Cursor.mk (c :: cs ++ rest) position).next =
      (.token t, ⟨rest, position + (c :: cs).length⟩) := by
    simp only [Cursor.next, hskip, hlexeme, Cursor.advance_append, List.length_nil, Nat.add_zero]
  rw [Cursor.tokens_of_next hnext, h]

/-- A spelling in front of a text that stands apart from it. -/
theorem Reads.spelled (h : Reads rest ts) (hrest : ∀ c ∈ rest.head?, isSpace c = true ∨ c = ')')
    {spelling : List Char} (hspells : IsSpelling t spelling) :
    Reads (spelling ++ rest) (t :: ts) := by
  obtain ⟨c, cs, rfl⟩ := List.exists_cons_of_ne_nil hspells.ne_nil
  exact h.token c cs hspells.isSpace_head (hspells.lexeme_of_apart hrest)

/-! ## Every kind of token -/

theorem Reads.leftParen (h : Reads rest ts) : Reads ('(' :: rest) (.leftParen :: ts) :=
  h.token '(' [] (isSpace_eq_of_lt (by decide)) fun _ => rfl

theorem Reads.rightParen (h : Reads rest ts) : Reads (')' :: rest) (.rightParen :: ts) :=
  h.token ')' [] (isSpace_eq_of_lt (by decide)) fun _ => rfl

/-- A text between quotes is one string, whatever follows. -/
theorem Reads.string (h : Reads rest ts) {text : List Char} (hquote : Cursor.quote ∉ text) :
    Reads (Cursor.quote :: (text ++ [Cursor.quote]) ++ rest)
      (.string (String.ofList text) :: ts) :=
  h.token Cursor.quote (text ++ [Cursor.quote]) (isSpace_eq_of_lt (by decide))
    (Cursor.lexeme_string hquote rest)

theorem apart_nil : Apart [] := fun _ hc => absurd hc (Option.not_mem_none _)

theorem apart_space (rest : List Char) : Apart (' ' :: rest) := by
  rintro c ⟨⟩
  exact .inl rfl

theorem apart_rightParen (rest : List Char) : Apart (')' :: rest) := by
  rintro c ⟨⟩
  exact .inr rfl

theorem Apart.head (h : Apart rest) : ∀ c ∈ rest.head?, isSpace c = true ∨ c = ')' := by
  intro c hc
  refine (h c hc).imp_left ?_
  rintro rfl
  exact isSpace_eq_of_lt (by decide)

/-- A bare name that does not begin with a digit is a word. -/
theorem Reads.word (h : Reads rest ts) (hrest : Apart rest) {c : Char} {cs : List Char}
    (hdigit : c.isDigit = false) (hname : ∀ d ∈ c :: cs, isBareChar d = true) :
    Reads (c :: cs ++ rest) (.word (String.ofList (c :: cs)) :: ts) := by
  have hc : isBareChar c = true := hname c List.mem_cons_self
  have hstart : (isAlphabetic c || c == '_') = true := by
    have hascii := isAlphabetic_ascii c.toNat (toNat_lt_of_isBareChar hc)
    rw [Char.ofNat_toNat] at hascii
    rw [hascii]
    simpa [isBareChar, Char.isAlphanum, hdigit] using hc
  exact h.spelled hrest.head
    (.word hstart fun d hd => isNameChar_of_isBareChar (hname d (List.mem_cons_of_mem c hd)))

theorem Reads.number (h : Reads rest ts) (hrest : Apart rest) {whole fraction : List Char}
    (hfixed : IsFixed whole fraction) :
    Reads (fixedText whole fraction ++ rest) (.number (ofFixed whole fraction) :: ts) :=
  h.spelled hrest.head (.number hfixed (readFloat?_fixedText hfixed))

/-- An operator is read as it is written. -/
theorem Reads.operator (h : Reads rest ts) (hrest : Apart rest) {spelling : List Char}
    {op : Operator} (hspelling : Cursor.operator? spelling = some (op, spelling.length)) :
    Reads (spelling ++ rest) (.operator op :: ts) := by
  have hspells := (isSpelling_of_operator? hspelling).2
  rw [List.take_length] at hspells
  exact h.spelled hrest.head hspells

/-! ## Evaluation -/

theorem evaluate_of_reads {text : String} (h : Reads text.toList ts) :
    evaluate text = evaluateTokens ts := by
  have htokenize : tokenize text = .ok ts := by
    simp only [tokenize, Cursor.start, h 0]
  rw [evaluate, toPostfix_of_tokenize htokenize, evaluateTokens]

end DocQuery.Expression
