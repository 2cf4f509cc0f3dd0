import Mathlib
import DocQuery.Proofs.Expression.Requests

/-!
# Rows of Written Tokens

A text has tokens exactly if it consists of their spellings, with white space before, between and
behind them, and each spelling is the longest one at its place.  Then nothing but white space is
left out.  Tokens that are kept apart by white space may be written in any of their spellings.

## Main definitions

- `WrittenToken`: a token as it is written, and the white space behind it
- `Longest`: each spelling of a row is the longest one at its place

## Main statements

- `reads_rowText`: a row of longest spellings is read as its tokens
- `exists_row_of_tokens`: a text without a defect is such a row
- `tokenize_iff_rowText`: the tokens of a text
-/

namespace DocQuery.Expression

open DocQuery.Text DocQuery.Decimal

/-- A token as it is written, and the white space behind it. -/
structure WrittenToken where
  token : Token
  spelling : List Char
  gap : List Char
  spells : IsSpelling token spelling
  blank : ∀ c ∈ gap, isSpace c = true

/-- The text of a row of tokens. -/
def rowText (row : List WrittenToken) : List Char := row.flatMap fun w => w.spelling ++ w.gap

theorem rowText_cons (w : WrittenToken) (row : List WrittenToken) :
    rowText (w :: row) = w.spelling ++ (w.gap ++ rowText row) := by
  rw [rowText, List.flatMap_cons, List.append_assoc]
  rfl

/-- Each spelling of a row is the longest one at its place. -/
def Longest : List WrittenToken → Prop
  | [] => True
  | w :: row => IsLongest w.spelling (rowText (w :: row)) ∧ Longest row

variable {row : List WrittenToken} {ts : List Token}

/-! ## Reading a row -/

/-- White space between the tokens keeps every spelling from being made longer. -/
theorem longest_of_gaps (hgaps : ∀ w ∈ row.dropLast, w.gap ≠ []) : Longest row := by
  induction row with
  | nil => trivial
  | cons w row ih =>
    have hrest : ∀ c ∈ (w.gap ++ rowText row).head?, isSpace c = true ∨ c = ')' := by
      intro c hc
      cases hgap : w.gap with
      | nil =>
        -- only the last token may have no gap behind it
        cases row with
        | nil => simp [hgap, rowText] at hc
        | cons next row => exact absurd hgap (hgaps w List.mem_cons_self)
      | cons d gap =>
        have hd := w.blank d (by rw [hgap]; exact List.mem_cons_self)
        rw [hgap] at hc
        cases hc
        exact .inl hd
    refine ⟨?_, ih fun v hv => hgaps v ?_⟩
    · rw [rowText_cons]
      exact w.spells.isLongest hrest
    · cases row with
      | nil => cases hv
      | cons next row => exact List.mem_cons_of_mem w hv

/-- A row of longest spellings is read as its tokens. -/
theorem reads_rowText (hlongest : Longest row) : Reads (rowText row) (row.map (·.token)) := by
  induction row with
  | nil => exact reads_nil
  | cons w row ih =>
    have hrest : Reads (w.gap ++ rowText row) (row.map (·.token)) := (ih hlongest.2).blanks w.blank
    -- a token is added in front of the text behind it, from the end of the row on
    have hlexeme := fun position => w.spells.lexeme_of_isLongest
      (rowText_cons w row ▸ hlongest.1) position
    obtain ⟨c, cs, hspelling⟩ := List.exists_cons_of_ne_nil w.spells.ne_nil
    have hspace : isSpace c = false := (hspelling ▸ w.spells).isSpace_head
    rw [rowText_cons, List.map_cons]
    rw [hspelling] at hlexeme ⊢
    exact hrest.token c cs hspace hlexeme

/-! ## Taking a text apart -/

/-- A text that is read to its end is a row of longest spellings, behind white space. -/
theorem exists_row_of_tokens (c : Cursor) (h : c.tokens = (ts, none)) :
    ∃ lead row, c.rest = lead ++ rowText row ∧ (∀ d ∈ lead, isSpace d = true) ∧ Longest row ∧
      row.map (·.token) = ts := by
  -- on the requests for tokens; the white space passed by the next one is the gap of a token
  induction c using Cursor.tokens.induct generalizing ts with
  | case1 c t d hnext us failure _ ih =>
    rw [Cursor.tokens_of_next hnext] at h
    obtain ⟨rfl, hfailure⟩ := Prod.mk.inj h
    obtain ⟨gap, row, hrest, hgap, hlongest, htokens⟩ := ih (Prod.ext rfl hfailure)
    obtain ⟨lead, taken, htext, hlead, -, htakes⟩ := next_eq_iff.mp hnext
    cases htakes with
    | token hspells hplace =>
      let w : WrittenToken := ⟨t, taken, gap, hspells, hgap⟩
      have hrow : taken ++ d.rest = rowText (w :: row) := by rw [rowText_cons, ← hrest]
      rw [hrow] at htext hplace
      exact ⟨lead, w :: row, htext, hlead, ⟨hplace, hlongest⟩, by rw [List.map_cons, htokens]⟩
  | case2 c d hnext =>
    rw [Cursor.tokens_of_ended hnext] at h
    cases h
    have hblank := (next_eq_iff.mp hnext).blank_of_ended
    exact ⟨c.rest, [], (List.append_nil _).symm, hblank, trivial, rfl⟩
  | case3 c e d hnext =>
    rw [Cursor.tokens_of_failed hnext] at h
    cases h

/-! ## Tokens of a text -/

theorem tokenize_eq_ok_iff {text : String} :
    tokenize text = .ok ts ↔ (Cursor.start text).tokens = (ts, none) := by
  rw [tokenize]
  rcases (Cursor.start text).tokens with ⟨found, failure⟩
  cases failure <;> simp

/-- Tokens that are written one behind the other with white space between them are the tokens of the
text, whatever their spellings.  The other way round, a text has tokens exactly if it consists of
spellings of them and white space, and each spelling is the longest one at its place. -/
theorem tokenize_iff_rowText :
    (∀ (lead : List Char) (row : List WrittenToken), (∀ c ∈ lead, isSpace c = true) →
      (∀ w ∈ row.dropLast, w.gap ≠ []) →
        tokenize (String.ofList (lead ++ rowText row)) = .ok (row.map (·.token))) ∧
    ∀ (text : String) (ts : List Token),
      tokenize text = .ok ts ↔ ∃ (lead : List Char) (row : List WrittenToken),
        text.toList = lead ++ rowText row ∧ (∀ c ∈ lead, isSpace c = true) ∧ Longest row ∧
          row.map (·.token) = ts := by
  have hread : ∀ (text : String) (lead : List Char) (row : List WrittenToken),
      text.toList = lead ++ rowText row → (∀ c ∈ lead, isSpace c = true) → Longest row →
        tokenize text = .ok (row.map (·.token)) := by
    intro text lead row htext hlead hlongest
    rw [tokenize_eq_ok_iff, Cursor.start, htext]
    exact (reads_rowText hlongest).blanks hlead 0
  constructor
  · intro lead row hlead hgaps
    exact hread _ lead row String.toList_ofList hlead (longest_of_gaps hgaps)
  · intro text ts
    constructor
    · intro h
      exact exists_row_of_tokens (Cursor.start text) (tokenize_eq_ok_iff.mp h)
    · rintro ⟨lead, row, htext, hlead, hlongest, rfl⟩
      exact hread text lead row htext hlead hlongest

/-- The short form of an operator between a fraction and a string, and tokens without white space
between them. -/
theorem tokenize_iff_rowText_short :
    tokenize " 1.5 &\t'a && b'" =
        .ok [.number (ofFixed ['1'] ['5']), .binary .and, .string "a && b"] ∧
      ∃ (lead : List Char) (row : List WrittenToken),
        "!x<=7".toList = lead ++ rowText row ∧ (∀ c ∈ lead, isSpace c = true) ∧ Longest row ∧
          row.map (·.token) = [.operator .negation, .word "x", .binary .lessEqual,
            .number (ofFixed ['7'] [])] := by
  have hfixed : IsFixed ['1'] ['5'] := ⟨by simp, by simp, by simp⟩
  have hspaces : ∀ c ∈ [' ', '\t'], isSpace c = true := by
    simp only [List.forall_mem_cons, List.not_mem_nil, false_implies, implies_true, and_true]
    exact ⟨isSpace_eq_of_lt (by decide), isSpace_eq_of_lt (by decide)⟩
  let row : List WrittenToken :=
    [⟨.number (ofFixed ['1'] ['5']), fixedText ['1'] ['5'], [' '],
        .number hfixed (readFloat?_fixedText hfixed), fun c hc => hspaces c (by simp_all)⟩,
      ⟨.binary .and, ['&'], ['\t'], .and, fun c hc => hspaces c (by simp_all)⟩,
      ⟨.string "a && b", Cursor.quote :: ("a && b".toList ++ [Cursor.quote]), [],
        .string (by decide), by simp⟩]
  constructor
  · exact tokenize_iff_rowText.1 [' '] row (fun c hc => hspaces c (by simp_all)) (by simp [row])
  · exact (tokenize_iff_rowText.2 _ _).mp (by decide +kernel)

end DocQuery.Expression
