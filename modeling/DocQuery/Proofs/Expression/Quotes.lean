import Mathlib
import DocQuery.Expression.Evaluation
import DocQuery.Proofs.Expression.Tokenizing

/-!
# Quotes Come in Pairs

A text that is read to its end without a defect has an even number of quotes: a string is spelled
with two of them, and no other token has any.  So a text with an odd number of quotes has no truth
value.

## Main statements

- `IsSpelling.even_count_quote`: a spelling has quotes in pairs
- `evaluate_ne_ok_of_odd`: a text with an odd number of quotes is not evaluated
-/

namespace DocQuery.Expression

open DocQuery.Text

variable {t : Token} {spelling : List Char}

/-- A string has the two quotes around it, every other token has none. -/
theorem IsSpelling.even_count_quote (h : IsSpelling t spelling) :
    Even (spelling.count Cursor.quote) := by
  have hclean : ∀ text : List Char, Cursor.quote ∉ text → Even (text.count Cursor.quote) := by
    intro text hmem
    rw [List.count_eq_zero_of_not_mem hmem]
    exact Even.zero
  rcases h.string_or_unmarked with ⟨body, hbody, rfl⟩ | rfl | hall
  · have htwo : (Cursor.quote :: (body ++ [Cursor.quote])).count Cursor.quote = 2 := by
      simp [List.count_eq_zero_of_not_mem hbody]
    rw [htwo]
    exact even_two
  · exact hclean _ (by decide)
  · exact hclean _ fun hmem => (hall _ hmem).2.2 rfl

/-- White space has no quotes. -/
theorem count_quote_blanks {gap : List Char} (hgap : ∀ c ∈ gap, isSpace c = true) :
    gap.count Cursor.quote = 0 := by
  apply List.count_eq_zero_of_not_mem
  intro hmem
  have hquote : isSpace Cursor.quote = false := isSpace_eq_of_lt (by decide)
  rw [hgap _ hmem] at hquote
  cases hquote

theorem even_count_quote_rowText (row : List WrittenToken) :
    Even ((rowText row).count Cursor.quote) := by
  induction row with
  | nil => exact Even.zero
  | cons w row ih =>
    rw [rowText_cons, List.count_append, List.count_append, count_quote_blanks w.blank,
      Nat.zero_add]
    exact w.spells.even_count_quote.add ih

/-- A text that is read to its end has an even number of quotes. -/
theorem even_count_quote_of_tokens (c : Cursor) (h : c.tokens.2 = none) :
    Even (c.rest.count Cursor.quote) := by
  obtain ⟨lead, row, hrest, hlead, -⟩ := exists_row_of_tokens c (Prod.ext rfl h)
  rw [hrest, List.count_append, count_quote_blanks hlead, Nat.zero_add]
  exact even_count_quote_rowText row

/-- A text with an odd number of quotes has no truth value. -/
theorem evaluate_ne_ok_of_odd {text : String} (hodd : Odd (text.toList.count Cursor.quote))
    (b : Bool) : evaluate text ≠ .ok b := by
  intro heval
  rw [evaluate, toPostfix] at heval
  dsimp only at heval
  cases hfailure : (Cursor.start text).tokens.2 with
  | none =>
    have heven := even_count_quote_of_tokens (Cursor.start text) hfailure
    exact Nat.not_even_iff_odd.mpr hodd heven
  | some e =>
    -- if no parenthesis is missing before, the defect of the text is the error
    rw [hfailure] at heval
    cases hrun : Yard.run [] (Cursor.start text).tokens.1 with
    | error failure => rw [hrun] at heval; cases heval
    | ok out => rw [hrun] at heval; cases heval

end DocQuery.Expression
