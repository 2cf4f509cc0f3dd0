import Mathlib
import DocQuery.Proofs.Path.Name

/-!
# Brackets as They Are Written

What a bracket selects can be written in one way at least: all children as a star, indices and
ranges in decimal, a key between single quotes, a filter behind a question mark.  Each of these
is classified by its own rule, although the rules overlap, and read back as it was meant.

## Main definitions

- `bracket`: a text between brackets
- `Numeral`: a whole number as it is written
- `SlicePiece.text`, `keyText`: how an index, a range or a key is written

## Main statements

- `scanBracket_bracket`: a bracket is scanned up to its closing mark
- `Numeral.readInt?_text`: a written number is read, however many digits it has
- `segmentOf_filter`, `segmentOf_slices`, `segmentOf_all`, `segmentOf_key`: what each kind of
  written bracket is read as
-/

namespace DocQuery.Path

open DocQuery.Text DocQuery.Decimal

/-! ## Scanning and classifying -/

/-- A text between brackets. -/
def bracket (body : List Char) : List Char := '[' :: (body ++ [']'])

/-- A bracket is scanned up to its closing mark. -/
theorem scanBracket_bracket {body : List Char} (hne : body ≠ []) (h : ']' ∉ body)
    (rest : List Char) : scanBracket (bracket body ++ rest) = (bracket body).length := by
  have htext : bracket body ++ rest = '[' :: (body ++ ']' :: rest) := by simp [bracket]
  have hbody : (body ++ ']' :: rest).takeWhile (· != ']') = body := by
    refine takeWhile_append_of_ends (fun c hc => ?_) (ends_cons (by decide) rest)
    exact bne_iff_ne.mpr fun he => h (he ▸ hc)
  have hempty : body.isEmpty = false := List.isEmpty_eq_false_iff.mpr hne
  have hclosed : (body.length == (body ++ ']' :: rest).length) = false := by simp
  rw [htext, scanBracket]
  simp only [hbody, hempty, hclosed, Bool.or_self, Bool.false_eq_true, if_false]
  simp [bracket]

theorem isNames_bracket (body : List Char) : isNames (bracket body) = false :=
  isNames_of_not_word (by decide) (isWord_eq_of_lt (by decide)) _

theorem isGlob_bracket (body : List Char) : isGlob (bracket body) = false := by
  have hstop : (bracket body).all (!isGlobStop ·) = false := by
    rw [bracket, List.all_cons]
    rfl
  rw [isGlob, hstop, Bool.and_false]

theorem isDescendant_bracket (body : List Char) : isDescendant (bracket body) = false := rfl

/-- A bracket that does not end with a parenthesis is no filter. -/
theorem isFilter_bracket_of_ne {c : Char} (h : c ≠ ')') (body : List Char) :
    isFilter (bracket (body ++ [c])) = false := by
  -- the rule looks at the last two characters
  have hreverse : (bracket (body ++ [c])).reverse = ']' :: c :: (body.reverse ++ ['[']) := by
    simp [bracket]
  rw [isFilter, hreverse]
  split
  · next heq => exact absurd (List.cons.inj heq).1 (by decide)
  · next heq => exact absurd (List.cons.inj (List.cons.inj heq).2).1 h
  · exact Bool.and_false _

/-- A filter is one line with an opening parenthesis, and a closing one at its end or before a
bracket at its end. -/
theorem isFilter_iff {cs : List Char} :
    isFilter cs = true ↔ ∃ front middle last, cs = front ++ '(' :: (middle ++ ')' :: last) ∧
      '\n' ∉ front ∧ '\n' ∉ middle ∧ (last = [] ∨ last = [']']) := by
  constructor
  · intro h
    obtain ⟨hline, hends⟩ := Bool.and_eq_true_iff.mp h
    have hline : '\n' ∉ cs := by simpa using hline
    -- what the rule looks at, read from the end
    obtain ⟨before, last, hcs, hlast, hopen⟩ : ∃ before last, cs = before ++ ')' :: last ∧
        (last = [] ∨ last = [']']) ∧ '(' ∈ before := by
      split at hends
      · next before heq =>
        refine ⟨before.reverse, [], ?_, .inl rfl, by simpa using hends⟩
        rw [← List.reverse_reverse cs, heq, List.reverse_cons]
      · next before heq =>
        refine ⟨before.reverse, [']'], ?_, .inr rfl, by simpa using hends⟩
        rw [← List.reverse_reverse cs, heq]
        simp
      · cases hends
    obtain ⟨front, middle, rfl⟩ := List.append_of_mem hopen
    subst hcs
    simp only [List.mem_append, List.mem_cons, not_or] at hline
    exact ⟨front, middle, last, by simp, hline.1.1, hline.1.2.2, hlast⟩
  · rintro ⟨front, middle, last, rfl, hfront, hmiddle, rfl | rfl⟩
    · simp [isFilter, hfront, hmiddle]
    · simp [isFilter, hfront, hmiddle]

theorem isFilter_bracket {mark middle : List Char} (hmark : '\n' ∉ mark) (h : '\n' ∉ middle) :
    isFilter (bracket (mark ++ '(' :: (middle ++ [')']))) = true := by
  have hfront : '\n' ∉ '[' :: mark := by simp [hmark]
  exact isFilter_iff.mpr ⟨'[' :: mark, middle, [']'], by simp [bracket], hfront, h, .inr rfl⟩

/-- A bracket that is no filter is classified as a selector if it has the form of one. -/
theorem segmentOf_bracket_of_form {body : List Char} {form : ArrayForm}
    (hfilter : isFilter (bracket body) = false) (hform : ArrayForm.ofBody? body = some form) :
    segmentOf (bracket body) = form.segment := by
  have hbracket : ArrayForm.ofBracket? (bracket body) = some form := by
    rw [ArrayForm.ofBracket?, bracket, stripEnds?_concat, Option.bind_some, hform]
  have hclassify : classify (bracket body) = .array := by
    simp only [classify_eq_find?, SegmentKind.priority, List.find?_cons, SegmentKind.fits,
      isNames_bracket, isGlob_bracket, hfilter, isDescendant_bracket, hbracket,
      Option.isSome_some, Option.getD_some]
  rw [segmentOf, hclassify]
  simp only [hbracket]

/-! ## Filters -/

/-- A filter is freed from its brackets and from a question mark. -/
theorem filterBody_bracket {mark : List Char} (hmark : mark = [] ∨ mark = ['?'])
    (cs : List Char) : filterBody (bracket (mark ++ '(' :: cs)) = '(' :: cs := by
  have hparen : isSpace '(' = false := isSpace_eq_of_lt (by decide)
  have hquestion : isSpace '?' = false := isSpace_eq_of_lt (by decide)
  have htrim : trim (bracket (mark ++ '(' :: cs)) = bracket (mark ++ '(' :: cs) :=
    trim_eq_self (isSpace_eq_of_lt (by decide)) (isSpace_eq_of_lt (by decide))
  have hstrip : stripEnds? '[' ']' (bracket (mark ++ '(' :: cs)) = some (mark ++ '(' :: cs) :=
    stripEnds?_concat '[' ']' _
  rw [filterBody, htrim, hstrip]
  rcases hmark with rfl | rfl
  · simp [hparen]
  · simp [hquestion]

/-- A bracket with a clause in parentheses is read as a filter, with or without a question mark. -/
theorem segmentOf_clause {mark middle : List Char} (hmark : mark = [] ∨ mark = ['?'])
    (h : '\n' ∉ middle) :
    segmentOf (bracket (mark ++ '(' :: (middle ++ [')']))) =
      .filter (String.ofList ('(' :: (middle ++ [')']))) := by
  have hline : '\n' ∉ mark := by
    rcases hmark with rfl | rfl <;> decide
  have hclassify : classify (bracket (mark ++ '(' :: (middle ++ [')']))) = .filter := by
    simp only [classify_eq_find?, SegmentKind.priority, List.find?_cons, SegmentKind.fits,
      isNames_bracket, isGlob_bracket, isFilter_bracket hline h, Option.getD_some]
  rw [segmentOf, hclassify]
  simp only [filterBody_bracket hmark]

/-- A bracket with a question mark and a clause in parentheses is read as a filter. -/
theorem segmentOf_filter {middle : List Char} (h : '\n' ∉ middle) :
    segmentOf (bracket ('?' :: '(' :: (middle ++ [')']))) =
      .filter (String.ofList ('(' :: (middle ++ [')']))) :=
  segmentOf_clause (.inr rfl) h

/-! ## Numerals -/

theorem isDigit_of_isDigit {c : Char} (h : c.isDigit = true) : isDigit c = true := by
  have hlt : c.toNat < 128 :=
    toNat_lt_of_isBareChar (by simp [isBareChar, Char.isAlphanum, h])
  rw [isDigit_eq_of_lt hlt, h]

/-- A whole number as it is written: any number of digits, with or without a minus sign. -/
structure Numeral where
  negative : Bool
  digits : List Char
  /-- There is a digit at least -/
  digits_ne_nil : digits ≠ []
  isDigit_of_mem_digits : ∀ c ∈ digits, c.isDigit = true

namespace Numeral

/-- How the number is written. -/
def text (w : Numeral) : List Char := if w.negative then '-' :: w.digits else w.digits

/-- The number that is written. -/
def value (w : Numeral) : Int :=
  if w.negative then -(Nat.ofDigitChars 10 w.digits 0 : Int) else Nat.ofDigitChars 10 w.digits 0

/-- A number without zeros in front. -/
def ofInt (n : Int) : Numeral where
  negative := n < 0
  digits := natText n.natAbs
  digits_ne_nil := Nat.toDigits_ne_nil
  isDigit_of_mem_digits := fun _ hc => isDigit_of_mem_natText hc

theorem text_ofInt (n : Int) : (ofInt n).text = intText n := by
  simp only [text, ofInt, intText, decide_eq_true_eq]

variable (w : Numeral)

theorem exists_digits : ∃ c cs, w.digits = c :: cs ∧ c.isDigit = true := by
  obtain ⟨c, cs, hdigits⟩ := List.exists_cons_of_ne_nil w.digits_ne_nil
  exact ⟨c, cs, hdigits, w.isDigit_of_mem_digits c (hdigits ▸ List.mem_cons_self)⟩

theorem mem_text {c : Char} (h : c ∈ w.text) : c = '-' ∨ c.isDigit = true := by
  rw [text] at h
  split at h
  · exact (List.mem_cons.mp h).imp_right (w.isDigit_of_mem_digits c)
  · exact .inr (w.isDigit_of_mem_digits c h)

theorem readNat?_digits : readNat? w.digits = some (Nat.ofDigitChars 10 w.digits 0) :=
  if_pos ⟨w.digits_ne_nil, List.all_eq_true.mpr w.isDigit_of_mem_digits⟩

/-- A written number is read, however many digits it has. -/
theorem readInt?_text : readInt? w.text = some w.value := by
  rw [text, value]
  split
  · rw [readInt?, readNat?_digits]
    rfl
  · obtain ⟨c, cs, hdigits, hc⟩ := w.exists_digits
    have hread := w.readNat?_digits
    rw [hdigits] at hread ⊢
    -- a digit is no sign
    unfold readInt?
    split
    · next heq => cases heq; exact absurd hc (by decide)
    · next heq => cases heq; exact absurd hc (by decide)
    · rw [hread]
      rfl

/-- The rule for ranges passes over a written number. -/
theorem dropWhile_text {rest : List Char} (hrest : Ends isDigit rest) :
    (dropOne '-' (w.text ++ rest)).dropWhile isDigit = rest := by
  have hdigits : (w.digits ++ rest).dropWhile isDigit = rest :=
    dropWhile_append_of_ends (fun c hc => isDigit_of_isDigit (w.isDigit_of_mem_digits c hc)) hrest
  rw [text]
  split
  · rw [List.cons_append, dropOne, if_pos rfl, hdigits]
  · obtain ⟨c, cs, heq, hc⟩ := w.exists_digits
    have hne : c ≠ '-' := by rintro rfl; exact absurd hc (by decide)
    rw [heq] at hdigits ⊢
    rw [List.cons_append, dropOne, if_neg hne, ← List.cons_append, hdigits]

end Numeral

/-- How a bound is written; one that is missing is not written at all. -/
def writtenBound : Option Numeral → List Char
  | some w => w.text
  | none => []

/-- How a range is written. -/
def writtenRange (start stop : Option Numeral) : List Char :=
  writtenBound start ++ ':' :: writtenBound stop

theorem mem_writtenBound {bound : Option Numeral} {c : Char} (h : c ∈ writtenBound bound) :
    c = '-' ∨ c.isDigit = true := by
  cases bound with
  | none => exact absurd h List.not_mem_nil
  | some w => exact w.mem_text h

theorem mem_writtenRange {start stop : Option Numeral} {c : Char}
    (h : c ∈ writtenRange start stop) : c = ':' ∨ c = '-' ∨ c.isDigit = true := by
  rcases List.mem_append.mp h with h | h
  · exact .inr (mem_writtenBound h)
  · exact (List.mem_cons.mp h).imp_right mem_writtenBound

theorem writtenRange_ne_nil (start stop : Option Numeral) : writtenRange start stop ≠ [] :=
  List.append_ne_nil_of_right_ne_nil _ (List.cons_ne_nil _ _)

/-- The rule for ranges passes over a written bound. -/
theorem dropWhile_writtenBound (bound : Option Numeral) {rest : List Char}
    (hdigit : Ends isDigit rest) (hminus : Ends (· == '-') rest) :
    (dropOne '-' (writtenBound bound ++ rest)).dropWhile isDigit = rest := by
  cases bound with
  | some w => exact w.dropWhile_text hdigit
  | none =>
    have hdrop : dropOne '-' rest = rest := by
      cases rest with
      | nil => rfl
      | cons c rest => exact if_neg (by simpa using hminus c rfl)
    rw [writtenBound, List.nil_append, hdrop, dropWhile_of_ends hdigit]

theorem dropWhile_writtenBound_nil (bound : Option Numeral) :
    (dropOne '-' (writtenBound bound)).dropWhile isDigit = [] := by
  have h := dropWhile_writtenBound bound (ends_nil isDigit) (ends_nil _)
  rwa [List.append_nil] at h

/-- A range is cut at its colon, and its bounds are read one by one. -/
theorem slicePiece?_writtenRange (start stop : Option Numeral) :
    slicePiece? (writtenRange start stop) =
      some (.range (readInt64? (writtenBound start)) (readInt64? (writtenBound stop))) := by
  have hcolon : ':' ∉ writtenBound start := fun h => by
    rcases mem_writtenBound h with h | h
    · exact absurd h (by decide)
    · exact absurd h (by decide)
  rw [slicePiece?, writtenRange, cutFirst?_append hcolon]

/-- A bound is read as its number, if this fits 64 bits. -/
theorem readInt64?_writtenBound (bound : Option Numeral) :
    readInt64? (writtenBound bound) = (bound.map Numeral.value).bind toInt64? := by
  cases bound with
  | none => rfl
  | some w => rw [writtenBound, readInt64?, w.readInt?_text, Option.map_some]

theorem isSlice_eq (cs : List Char) :
    isSlice cs = ((dropOne '-' (dropOne ':'
      ((dropOne '-' cs).dropWhile isDigit))).dropWhile isDigit).isEmpty := rfl

/-- The rule for ranges fits a single number. -/
theorem Numeral.isSlice_text (w : Numeral) : isSlice w.text = true := by
  have hfirst : (dropOne '-' w.text).dropWhile isDigit = [] := dropWhile_writtenBound_nil (some w)
  rw [isSlice_eq, hfirst]
  rfl

/-- The rule for ranges fits a range. -/
theorem isSlice_writtenRange (start stop : Option Numeral) :
    isSlice (writtenRange start stop) = true := by
  have hcolon : isDigit ':' = false := isDigit_eq_of_lt (by decide)
  have hfirst := dropWhile_writtenBound start (ends_cons hcolon (writtenBound stop))
    (ends_cons (by decide) _)
  rw [isSlice_eq, writtenRange, hfirst, dropOne, if_pos rfl, dropWhile_writtenBound_nil stop]
  rfl

/-! ## Indices and ranges -/

/-- How a bound is written; one that is left out is not written at all. -/
def boundText : Option Int64 → List Char
  | some n => intText n.toInt
  | none => []

/-- How an index or a range is written. -/
def SlicePiece.text : SlicePiece → List Char
  | index n => intText n.toInt
  | range start stop => boundText start ++ ':' :: boundText stop

theorem boundText_eq (bound : Option Int64) :
    boundText bound = writtenBound (bound.map fun n => .ofInt n.toInt) := by
  cases bound with
  | none => rfl
  | some n => exact (Numeral.text_ofInt n.toInt).symm

theorem SlicePiece.text_range (start stop : Option Int64) :
    (range start stop).text = writtenRange (start.map fun n => .ofInt n.toInt)
      (stop.map fun n => .ofInt n.toInt) := by
  rw [text, boundText_eq, boundText_eq, writtenRange]

/-- Indices and ranges are written in digits, minus signs and colons. -/
theorem SlicePiece.mem_text {piece : SlicePiece} {c : Char} (h : c ∈ piece.text) :
    c = ':' ∨ c = '-' ∨ c.isDigit = true := by
  cases piece with
  | index n => exact .inr (mem_intText h)
  | range start stop =>
    rw [SlicePiece.text_range] at h
    exact mem_writtenRange h

/-- The rule for ranges fits what is written. -/
theorem SlicePiece.isSlice_text (piece : SlicePiece) : isSlice piece.text = true := by
  cases piece with
  | index n =>
    rw [SlicePiece.text, ← Numeral.text_ofInt]
    exact Numeral.isSlice_text _
  | range start stop =>
    rw [SlicePiece.text_range]
    exact isSlice_writtenRange _ _

theorem readInt64?_boundText (bound : Option Int64) : readInt64? (boundText bound) = bound := by
  cases bound with
  | none => rfl
  | some n => exact readInt64?_intText n

/-- Reading an index or a range gives it back. -/
theorem slicePiece?_text (piece : SlicePiece) : slicePiece? piece.text = some piece := by
  cases piece with
  | index n =>
    have hcolon : ':' ∉ intText n.toInt := fun h => by
      rcases mem_intText h with h | h
      · exact absurd h (by decide)
      · exact absurd h (by decide)
    rw [slicePiece?, SlicePiece.text, cutFirst?_eq_none hcolon, readInt64?_intText]
    rfl
  | range start stop =>
    rw [SlicePiece.text_range, slicePiece?_writtenRange, ← boundText_eq, ← boundText_eq,
      readInt64?_boundText, readInt64?_boundText]

/-- The pieces of a list are cut at its commas. -/
theorem splitAt_pieces {pieces : List SlicePiece} (h : pieces ≠ []) :
    splitAt ',' (join [','] (pieces.map SlicePiece.text)) = pieces.map SlicePiece.text := by
  refine splitAt_join (by simpa using h) fun part hpart => ?_
  obtain ⟨piece, -, rfl⟩ := List.mem_map.mp hpart
  intro hcomma
  rcases SlicePiece.mem_text hcomma with h | h | h <;> exact absurd h (by decide)

/-- Reading a list of indices and ranges gives it back. -/
theorem slicePieces_join {pieces : List SlicePiece} (h : pieces ≠ []) :
    slicePieces (join [','] (pieces.map SlicePiece.text)) = pieces := by
  rw [slicePieces, splitAt_pieces h, List.filterMap_map]
  have hread : slicePiece? ∘ SlicePiece.text = some := funext slicePiece?_text
  rw [hread, List.filterMap_some]

/-- A joined list holds only what its parts and the separators do. -/
theorem mem_join {separator c : Char} {parts : List (List Char)}
    (h : c ∈ join [separator] parts) : c = separator ∨ ∃ part ∈ parts, c ∈ part := by
  induction parts with
  | nil => exact absurd h List.not_mem_nil
  | cons part parts ih =>
    cases parts with
    | nil => exact .inr ⟨part, List.mem_cons_self, h⟩
    | cons next parts =>
      rw [join_cons_cons, List.append_assoc] at h
      rcases List.mem_append.mp h with h | h
      · exact .inr ⟨part, List.mem_cons_self, h⟩
      · rcases List.mem_cons.mp h with h | h
        · exact .inl h
        · obtain h | ⟨p, hp, hc⟩ := ih h
          · exact .inl h
          · exact .inr ⟨p, List.mem_cons_of_mem part hp, hc⟩

theorem mem_pieces {pieces : List SlicePiece} {c : Char}
    (h : c ∈ join [','] (pieces.map SlicePiece.text)) :
    c = ',' ∨ c = ':' ∨ c = '-' ∨ c.isDigit = true := by
  rcases mem_join h with h | ⟨part, hpart, hc⟩
  · exact .inl h
  · obtain ⟨piece, -, rfl⟩ := List.mem_map.mp hpart
    exact .inr (SlicePiece.mem_text hc)

/-- A list of indices and ranges is not empty. -/
theorem join_pieces_ne_nil {pieces : List SlicePiece} (h : pieces ≠ []) :
    join [','] (pieces.map SlicePiece.text) ≠ [] := by
  intro hnil
  -- an empty text would be cut into one empty piece, which is no index or range
  have hread := slicePieces_join h
  rw [hnil] at hread
  exact h hread.symm

/-! ## Selectors -/

theorem isClause_of_ne {c : Char} (hquestion : c ≠ '?') (hparen : c ≠ '(') (cs : List Char) :
    isClause (c :: cs) = false := by
  unfold isClause
  split
  · next heq => exact absurd (List.cons.inj heq).1 hquestion
  · rw [stripEnds?_of_ne hparen]
    rfl

theorem isSlice_of_ne {c : Char} (hminus : c ≠ '-') (hcolon : c ≠ ':')
    (hdigit : isDigit c = false) (cs : List Char) : isSlice (c :: cs) = false := by
  have hskip : (dropOne '-' (c :: cs)).dropWhile isDigit = c :: cs := by
    rw [dropOne, if_neg hminus, dropWhile_of_ends (ends_cons hdigit cs)]
  have hcolonSkip : dropOne ':' (c :: cs) = c :: cs := by rw [dropOne, if_neg hcolon]
  rw [isSlice_eq, hskip, hcolonSkip, hskip]
  rfl

/-- The marks in a list of indices and ranges are none of those that other rules look for. -/
theorem ne_of_sliceChar {c d : Char} (h : c = ',' ∨ c = ':' ∨ c = '-' ∨ c.isDigit = true)
    (hcomma : d ≠ ',') (hcolon : d ≠ ':') (hminus : d ≠ '-') (hdigit : d.isDigit = false) :
    c ≠ d := by
  rintro rfl
  rcases h with h | h | h | h
  · exact hcomma h
  · exact hcolon h
  · exact hminus h
  · rw [hdigit] at h
    exact Bool.false_ne_true h

/-- A bracket with parts that fit the rule for ranges is read as a list of indices and ranges. -/
theorem segmentOf_of_isSlice {body : List Char} (hne : body ≠ [])
    (hchars : ∀ c ∈ body, c = ',' ∨ c = ':' ∨ c = '-' ∨ c.isDigit = true)
    (hall : (splitAt ',' body).all isSlice = true) :
    segmentOf (bracket body) = .array (.slices (slicePieces body)) := by
  have hmarks : ∀ c ∈ body, ∀ d, d ≠ ',' → d ≠ ':' → d ≠ '-' → d.isDigit = false → c ≠ d :=
    fun c hc d => ne_of_sliceChar (hchars c hc)
  have hform : ArrayForm.ofBody? body = some (.slices body) := by
    have hclause : isClause body = false := by
      obtain ⟨c, cs, rfl⟩ := List.exists_cons_of_ne_nil hne
      have hc : c ∈ c :: cs := List.mem_cons_self
      exact isClause_of_ne (hmarks c hc '?' (by decide) (by decide) (by decide) (by decide))
        (hmarks c hc '(' (by decide) (by decide) (by decide) (by decide)) cs
    rw [ArrayForm.ofBody?, hclause, hall]
    rfl
  -- the rule for filters comes first, but asks for a parenthesis at the end
  have hfilter : isFilter (bracket body) = false := by
    rw [← List.dropLast_append_getLast hne]
    exact isFilter_bracket_of_ne (hmarks _ (List.getLast_mem hne) ')' (by decide) (by decide)
      (by decide) (by decide)) _
  rw [segmentOf_bracket_of_form hfilter hform, ArrayForm.segment]

/-- A list of indices and ranges is read back. -/
theorem segmentOf_slices {pieces : List SlicePiece} (h : pieces ≠ []) :
    segmentOf (bracket (join [','] (pieces.map SlicePiece.text))) = .array (.slices pieces) := by
  have hall : (splitAt ',' (join [','] (pieces.map SlicePiece.text))).all isSlice = true := by
    rw [splitAt_pieces h]
    simp [SlicePiece.isSlice_text]
  rw [segmentOf_of_isSlice (join_pieces_ne_nil h) (fun c => mem_pieces) hall, slicePieces_join h]

/-- The bounds of a written range are its numbers, as far as they fit 64 bits; the others count as
missing. -/
theorem segmentOf_writtenRange (start stop : Option Numeral) :
    segmentOf (bracket (writtenRange start stop)) =
      .array (.slices [.range ((start.map Numeral.value).bind toInt64?)
        ((stop.map Numeral.value).bind toInt64?)]) := by
  have hcomma : ',' ∉ writtenRange start stop := fun h => by
    rcases mem_writtenRange h with h | h | h <;> exact absurd h (by decide)
  have hpiece : slicePiece? (writtenRange start stop) =
      some (.range ((start.map Numeral.value).bind toInt64?)
        ((stop.map Numeral.value).bind toInt64?)) := by
    rw [slicePiece?_writtenRange, readInt64?_writtenBound, readInt64?_writtenBound]
  have hsplit := splitAt_of_notMem hcomma
  have hall : (splitAt ',' (writtenRange start stop)).all isSlice = true := by
    rw [hsplit, List.all_cons, isSlice_writtenRange]
    rfl
  rw [segmentOf_of_isSlice (writtenRange_ne_nil start stop) (fun c hc => .inr (mem_writtenRange hc))
    hall, slicePieces, hsplit, List.filterMap_cons_some hpiece, List.filterMap_nil]

/-- A star between brackets selects all children. -/
theorem segmentOf_all : segmentOf (bracket ['*']) = .array .all := by
  have hform : ArrayForm.ofBody? ['*'] = some .all := by decide +kernel
  exact segmentOf_bracket_of_form (by decide +kernel) hform

/-- A key between single quotes. -/
def keyText (key : List Char) : List Char := '\x27' :: (key ++ ['\x27'])

theorem closeBracket_notMem_keyText {key : List Char} (h : ']' ∉ key) : ']' ∉ keyText key := by
  intro hmem
  rcases List.mem_cons.mp hmem with heq | hmem
  · exact absurd heq (by decide)
  rcases List.mem_append.mp hmem with hmem | hmem
  · exact h hmem
  · exact absurd (List.mem_singleton.mp hmem) (by decide)

/-- A key between single quotes is read back, whatever marks it holds. -/
theorem segmentOf_key {key : List Char} (hne : key ≠ []) (hline : '\n' ∉ key) :
    segmentOf (bracket (keyText key)) = .array (.key (String.ofList key)) := by
  rw [keyText]
  have hslices : (splitAt ',' ('\x27' :: (key ++ ['\x27']))).all isSlice = false := by
    -- the first of the parts starts with the quote
    obtain ⟨part, parts, heq⟩ :=
      List.exists_cons_of_ne_nil (splitAt_ne_nil ',' (key ++ ['\x27']))
    have hpart : isSlice ('\x27' :: part) = false :=
      isSlice_of_ne (by decide) (by decide) (isDigit_eq_of_lt (by decide)) part
    have hcut : splitAt ',' ('\x27' :: (key ++ ['\x27'])) = ('\x27' :: part) :: parts := by
      rw [splitAt, if_neg (by decide), heq]
    rw [hcut, List.all_cons, hpart, Bool.false_and]
  have hquoted : quotedKey? '\x27' ('\x27' :: (key ++ ['\x27'])) = some key := by
    have hline' : key.contains '\n' = false := by simpa using hline
    have hempty : key.isEmpty = false := List.isEmpty_eq_false_iff.mpr hne
    rw [quotedKey?, stripEnds?_concat, Option.filter_some, if_pos]
    rw [hempty, hline']
    rfl
  have hform : ArrayForm.ofBody? ('\x27' :: (key ++ ['\x27'])) = some (.key key) := by
    have hclause : isClause ('\x27' :: (key ++ ['\x27'])) = false :=
      isClause_of_ne (by decide) (by decide) _
    have hstar : ('\x27' :: (key ++ ['\x27'])) ≠ ['*'] := by simp
    rw [ArrayForm.ofBody?, hclause, hslices, if_neg Bool.false_ne_true, if_neg Bool.false_ne_true,
      if_neg hstar, hquoted]
    rfl
  have hfilter : isFilter (bracket ('\x27' :: (key ++ ['\x27']))) = false :=
    isFilter_bracket_of_ne (by decide) ('\x27' :: key)
  rw [segmentOf_bracket_of_form hfilter hform, ArrayForm.segment]

end DocQuery.Path
