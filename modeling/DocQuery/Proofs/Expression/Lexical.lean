import Mathlib
import DocQuery.Expression.Lexer
import DocQuery.Proofs.Decimal.RoundTrip
import DocQuery.Proofs.Path.Name

/-!
# Lexical Grammar

The spellings of each token, and what a cursor takes.  Where a text begins with a spelling, a token
is read there that is at least as long; and what is read as a token is one of its spellings.  So a
cursor always takes the longest spelling at its place, and a spelling is taken as it is unless it
can be made longer, which white space and closing parentheses prevent.

## Main definitions

- `IsSpelling`: the ways to write a token
- `IsLongest`: a spelling is the longest one at its place

## Main statements

- `IsSpelling.lexeme_append`: at a spelling a token is read that is at least as long
- `isSpelling_of_lexeme`: what is read as a token is a spelling of it
- `IsSpelling.lexeme_of_isLongest`: the longest spelling at its place is read as its token
- `IsSpelling.isLongest`: white space and closing parentheses make no spelling longer
-/

namespace DocQuery.Expression

open DocQuery.Text DocQuery.Decimal
open DocQuery.Path (Ends isBareChar isNameChar_of_isBareChar toNat_lt_of_isBareChar ne_of_holds
  take_length_takeWhile take_quoted takeWhile_append_of_ends ends_cons)

/-- The ways to write a token. -/
inductive IsSpelling : Token → List Char → Prop
  | operator (op : Operator) : IsSpelling (.operator op) op.symbol.toList
  /-- The logical operators have a short form -/
  | and : IsSpelling (.binary .and) ['&']
  | or : IsSpelling (.binary .or) ['|']
  | leftParen : IsSpelling .leftParen ['(']
  | rightParen : IsSpelling .rightParen [')']
  /-- Digits, and digits behind a point -/
  | number {whole fraction : List Char} {x : Float} (hfixed : IsFixed whole fraction)
      (hread : readFloat? (fixedText whole fraction) = some x) :
      IsSpelling (.number x) (fixedText whole fraction)
  /-- Any text without a quote, between quotes -/
  | string {body : List Char} (hquote : Cursor.quote ∉ body) :
      IsSpelling (.string (String.ofList body)) (Cursor.quote :: (body ++ [Cursor.quote]))
  /-- A letter or a low line, and characters of names -/
  | word {c : Char} {cs : List Char} (hstart : (isAlphabetic c || c == '_') = true)
      (hname : ∀ d ∈ cs, isNameChar d = true) :
      IsSpelling (.word (String.ofList (c :: cs))) (c :: cs)

/-- No spelling that a text begins with is longer than `spelling`. -/
def IsLongest (spelling text : List Char) : Prop :=
  ∀ t longer, IsSpelling t longer → longer <+: text → longer.length ≤ spelling.length

variable {c : Char} {cs rest spelling : List Char} {t u : Token} {n position : Nat}

/-! ## Characters -/

/-- White space is no part of a name. -/
theorem isNameChar_of_isSpace (h : isSpace c = true) : isNameChar c = false := by
  -- the stretches of white space are short, so each of its characters is looked up
  have hall : Property.whiteSpace.ranges.all (fun r => (List.range' r.1 (r.2 + 1 - r.1)).all
      fun n => !isNameChar (Char.ofNat n)) = true := by decide +kernel
  obtain ⟨r, hr, hfirst, hlast⟩ := CodePointSet.exists_range_of_containsFrom (by decide) h
  have hmem : c.toNat ∈ List.range' r.1 (r.2 + 1 - r.1) := by
    rw [List.mem_range'_1]
    omega
  have hc := List.all_eq_true.mp (List.all_eq_true.mp hall r hr) c.toNat hmem
  rwa [Char.ofNat_toNat, Bool.not_eq_true'] at hc

theorem isSpace_of_isNameChar (h : isNameChar c = true) : isSpace c = false := by
  by_contra hspace
  rw [isNameChar_of_isSpace (Bool.eq_true_of_not_eq_false hspace)] at h
  cases h

theorem isBareChar_of_isDigit (h : c.isDigit = true) : isBareChar c = true := by
  simp [isBareChar, Char.isAlphanum, h]

/-- The character at the front of a word may stand inside of it too. -/
theorem isNameChar_of_wordStart (hstart : (isAlphabetic c || c == '_') = true) :
    isNameChar c = true := by
  simp only [isNameChar, isAlphanumeric]
  revert hstart
  cases isAlphabetic c <;> cases c == '_' <;> simp

/-! ## What a cursor takes -/

namespace Cursor

/-- White space is passed up to the first other character. -/
theorem skipSpaces_of_gap {c : Cursor} {gap : List Char} (htext : c.rest = gap ++ rest)
    (hgap : ∀ d ∈ gap, isSpace d = true) (hrest : Ends isSpace rest) :
    c.skipSpaces = ⟨rest, c.position + gap.length⟩ := by
  simp only [skipSpaces, advance, htext, takeWhile_append_of_ends hgap hrest, List.drop_left,
    List.length_append, Nat.min_eq_left (Nat.le_add_right _ _)]

theorem advance_append (taken rest : List Char) (position : Nat) :
    (Cursor.mk (taken ++ rest) position).advance taken.length =
      ⟨rest, position + taken.length⟩ := by
  simp only [advance, List.drop_left, List.length_append, Nat.min_eq_left (Nat.le_add_right _ _)]

/-- The end is found where nothing is left. -/
theorem eq_nil_of_lexeme_ended (h : lexeme cs position = (.ended, n)) : cs = [] := by
  unfold lexeme at h
  split at h
  · cases h
  · split at h
    · rfl
    · exfalso
      dsimp only at h
      repeat' split at h
      all_goals cases h

/-- The characters that operators begin with, and the equals sign. -/
def operatorChars : List Char := ['+', '-', '*', '/', '^', '~', '&', '|', '<', '>', '!', '=']

/-- No operator begins with any other character. -/
theorem operator?_eq_none (h : c ∉ operatorChars) (cs : List Char) :
    operator? (c :: cs) = none := by
  unfold operatorChars at h
  unfold operator?
  split <;> simp_all

/-- Names and numbers begin with no operator and no parenthesis, and with no quote. -/
theorem lexeme_of_isNameChar (h : isNameChar c = true) (cs : List Char) (position : Nat) :
    lexeme (c :: cs) position =
      if c.isDigit then
        let whole := (c :: cs).takeWhile Char.isDigit
        let part := fraction ((c :: cs).drop whole.length)
        (.token (.number (ofFixed whole part)),
          whole.length + (if part = [] then 0 else part.length + 1))
      else if isAlphabetic c || c == '_' then
        let name := c :: cs.takeWhile isNameChar
        (.token (.word (String.ofList name)), name.length)
      else (.failed (.unexpectedCharacter c position), 0) := by
  -- the marks that are asked for before numbers and words are all characters of ASCII
  have hmarks : (quote :: '(' :: ')' :: operatorChars).all (fun d => !isNameChar d) = true := by
    decide +kernel
  have hne : ∀ d ∈ quote :: '(' :: ')' :: operatorChars, c ≠ d := by
    intro d hd
    exact ne_of_holds h (by simpa using List.all_eq_true.mp hmarks d hd)
  have hoperator : operator? (c :: cs) = none := by
    apply operator?_eq_none
    intro hmem
    exact hne c (by simp [hmem]) rfl
  have hleft : c ≠ '(' := hne _ (by decide)
  have hright : c ≠ ')' := hne _ (by decide)
  have hequals : c ≠ '=' := hne _ (by decide)
  have hquote : c ≠ quote := hne _ (by decide)
  simp only [lexeme, hoperator, hleft, hright, hequals, hquote, if_false]

/-- A number starts with a digit. -/
theorem lexeme_of_isDigit (h : c.isDigit = true) (cs : List Char) (position : Nat) :
    lexeme (c :: cs) position =
      let whole := (c :: cs).takeWhile Char.isDigit
      let part := fraction ((c :: cs).drop whole.length)
      (.token (.number (ofFixed whole part)),
        whole.length + (if part = [] then 0 else part.length + 1)) := by
  rw [lexeme_of_isNameChar (isNameChar_of_isBareChar (isBareChar_of_isDigit h)), if_pos h]

/-- A word starts with a letter or a low line. -/
theorem lexeme_of_wordStart (hstart : (isAlphabetic c || c == '_') = true) (cs : List Char)
    (position : Nat) :
    lexeme (c :: cs) position =
      (.token (.word (String.ofList (c :: cs.takeWhile isNameChar))),
        (c :: cs.takeWhile isNameChar).length) := by
  -- digits are asked for first, but no digit of ASCII is a letter
  have hdigit : ¬c.isDigit = true := by
    intro hdigit
    have hlt := toNat_lt_of_isBareChar (isBareChar_of_isDigit hdigit)
    have hall : (List.range 128).all (fun n => !((Char.ofNat n).isDigit &&
        (isAlphabetic (Char.ofNat n) || Char.ofNat n == '_'))) = true := by decide +kernel
    have hc := List.all_eq_true.mp hall c.toNat (List.mem_range.mpr hlt)
    rw [Char.ofNat_toNat, hdigit, hstart] at hc
    cases hc
  rw [lexeme_of_isNameChar (isNameChar_of_wordStart hstart), if_neg hdigit, if_pos hstart]

/-- A string goes up to the next quote. -/
theorem lexeme_string {body : List Char} (hquote : quote ∉ body) (rest : List Char)
    (position : Nat) :
    lexeme (quote :: (body ++ [quote]) ++ rest) position =
      (.token (.string (String.ofList body)), (quote :: (body ++ [quote])).length) := by
  have hbody : (body ++ quote :: rest).takeWhile (· != quote) = body := by
    apply takeWhile_append_of_ends
    · intro c hc
      rw [bne_iff_ne]
      rintro rfl
      exact hquote hc
    · exact ends_cons (by simp) rest
  have hoperator : operator? (quote :: (body ++ quote :: rest)) = none :=
    operator?_eq_none (by decide) _
  have hparens : quote ≠ '(' ∧ quote ≠ ')' ∧ quote ≠ '=' := by decide
  have hlength : body.length < (body ++ quote :: rest).length := by simp
  rw [List.cons_append, List.append_assoc, List.singleton_append]
  simp only [lexeme, hoperator, hparens, if_false, if_true, hbody]
  rw [if_pos hlength]
  simp

theorem operator?_le_two {op : Operator} (h : operator? cs = some (op, n)) : n ≤ 2 := by
  unfold operator? at h
  split at h
  all_goals first
    | cases h; decide
    | cases h

/-- Only three marks make a longer operator of the mark in front of them. -/
theorem operator?_cons_cons {op : Operator} {a b : Char} (h : operator? [a] = some (op, 1))
    (hequals : b ≠ '=') (hampersand : b ≠ '&') (hbar : b ≠ '|') (rest : List Char) :
    operator? (a :: b :: rest) = some (op, 1) := by
  unfold operator? at h
  split at h
  all_goals first
    | next heq =>
      cases heq
      cases h
      first
        | rfl
        | rw [operator?]
          intro tail heq
          first
            | exact hequals (List.cons.inj heq).1
            | exact hampersand (List.cons.inj heq).1
            | exact hbar (List.cons.inj heq).1
    | cases h

/-- Where an operator is written, it or a longer one is read. -/
theorem operator?_append {op : Operator}
    (h : operator? spelling = some (op, spelling.length)) (rest : List Char) :
    ∃ op' n, operator? (spelling ++ rest) = some (op', n) ∧ spelling.length ≤ n ∧
      (n = spelling.length → op' = op) := by
  have hshort := operator?_le_two h
  -- no operator is longer than two characters, so only one of a single character can grow
  match spelling, rest with
  | [], _ => cases h
  | [a], [] => exact ⟨op, 1, h, Nat.le_refl _, fun _ => rfl⟩
  | [a], b :: rest =>
    by_cases hlonger : b = '=' ∨ b = '&' ∨ b = '|'
    · unfold operator? at h
      split at h
      all_goals first
        | next heq =>
          cases heq
          cases h
          rcases hlonger with rfl | rfl | rfl
          all_goals first
            | exact ⟨_, _, rfl, Nat.le_refl _, fun _ => rfl⟩
            | exact ⟨_, _, rfl, Nat.le_succ _, fun hn => absurd hn (by decide)⟩
        | cases h
    · rw [not_or, not_or] at hlonger
      exact ⟨op, 1, operator?_cons_cons h hlonger.1 hlonger.2.1 hlonger.2.2 rest, Nat.le_refl _,
        fun _ => rfl⟩
  | [a, b], rest =>
    unfold operator? at h
    split at h
    all_goals first
      | next heq =>
        cases heq
        cases h
        exact ⟨_, _, rfl, Nat.le_refl _, fun _ => rfl⟩
      | cases h
  | a :: b :: d :: more, _ => simp at hshort

/-- The point and the digits of a fraction are taken together. -/
theorem take_fraction (cs : List Char) :
    cs.take (if fraction cs = [] then 0 else (fraction cs).length + 1) =
      if fraction cs = [] then [] else '.' :: fraction cs := by
  unfold fraction
  split
  · next d rest =>
    split
    · rw [if_neg (List.cons_ne_nil _ _), if_neg (List.cons_ne_nil _ _), List.length_cons,
        List.take_succ_cons, List.take_succ_cons, take_length_takeWhile]
    · rfl
  · rfl

theorem isDigit_of_mem_fraction (hc : c ∈ fraction cs) : c.isDigit = true := by
  unfold fraction at hc
  split at hc
  · split at hc
    · next hd =>
      rcases List.mem_cons.mp hc with rfl | hc
      · exact hd
      · exact List.mem_takeWhile_imp hc
    · cases hc
  · cases hc

/-- Where a number is written, it or a longer one is read. -/
theorem lexeme_number_append {whole part : List Char} (hfixed : IsFixed whole part)
    (rest : List Char) (position : Nat) :
    ∃ x n, lexeme (fixedText whole part ++ rest) position = (.token (.number x), n) ∧
      (fixedText whole part).length ≤ n ∧
      (n = (fixedText whole part).length → x = ofFixed whole part) := by
  obtain ⟨c, cs, rfl⟩ := List.exists_cons_of_ne_nil hfixed.ne_nil
  have hdigit : c.isDigit = true := hfixed.whole_digits c List.mem_cons_self
  -- without a point more digits may follow, and a point with digits behind it
  by_cases hpart : part = []
  · subst hpart
    have htext : fixedText (c :: cs) [] = c :: cs := by rw [fixedText, if_pos rfl, List.append_nil]
    have hrun : (c :: (cs ++ rest)).takeWhile Char.isDigit =
        c :: cs ++ rest.takeWhile Char.isDigit := by
      rw [← List.cons_append, List.takeWhile_append_of_pos hfixed.whole_digits]
    rw [htext, List.cons_append, lexeme_of_isDigit hdigit]
    simp only [hrun]
    refine ⟨_, _, rfl, ?_, ?_⟩
    · rw [List.length_append]
      omega
    · -- nothing behind the digits has been taken
      generalize fraction _ = found
      intro hn
      rw [List.length_append] at hn
      have hmore : rest.takeWhile Char.isDigit = [] := List.length_eq_zero_iff.mp (by omega)
      have hfound : found = [] := by
        by_contra hne
        rw [if_neg hne] at hn
        omega
      rw [hmore, hfound, List.append_nil]
  · -- behind the point only more digits may follow
    obtain ⟨d, ds, rfl⟩ := List.exists_cons_of_ne_nil hpart
    have htext : fixedText (c :: cs) (d :: ds) ++ rest =
        c :: (cs ++ '.' :: d :: (ds ++ rest)) := by
      rw [fixedText, if_neg hpart]
      simp
    have hrun : (c :: (cs ++ '.' :: d :: (ds ++ rest))).takeWhile Char.isDigit = c :: cs := by
      rw [← List.cons_append]
      exact takeWhile_append_of_ends hfixed.whole_digits (ends_cons rfl _)
    have hdrop : (c :: (cs ++ '.' :: d :: (ds ++ rest))).drop (c :: cs).length =
        '.' :: d :: (ds ++ rest) := by
      rw [← List.cons_append, List.drop_left]
    have hfound : fraction ('.' :: d :: (ds ++ rest)) =
        d :: (ds ++ rest.takeWhile Char.isDigit) := by
      obtain ⟨hd, hds⟩ := List.forall_mem_cons.mp hfixed.fraction_digits
      rw [fraction, if_pos hd, List.takeWhile_append_of_pos hds]
    rw [htext, lexeme_of_isDigit hdigit, length_fixedText]
    simp only [hrun, hdrop, hfound, if_neg (List.cons_ne_nil d _)]
    refine ⟨_, _, rfl, ?_, ?_⟩
    · simp only [List.length_cons, List.length_append]
      omega
    · intro hn
      simp only [List.length_cons, List.length_append] at hn
      have hmore : rest.takeWhile Char.isDigit = [] := List.length_eq_zero_iff.mp (by omega)
      rw [hmore, List.append_nil]

end Cursor

/-! ## Longest spellings -/

theorem operator?_symbol (op : Operator) :
    Cursor.operator? op.symbol.toList = some (op, op.symbol.toList.length) := by
  cases op with
  | negation => decide
  | binary op => cases op <;> decide

/-- Where a text begins with a spelling, a token is read that is at least as long, and it is no
other one if it is no longer. -/
theorem IsSpelling.lexeme_append (h : IsSpelling t spelling) (rest : List Char) (position : Nat) :
    ∃ u n, Cursor.lexeme (spelling ++ rest) position = (.token u, n) ∧ spelling.length ≤ n ∧
      (n = spelling.length → u = t) := by
  -- an operator may have been written as a word or as a mark; what is read behind it is the same
  have hoperator : ∀ {op spelling}, Cursor.operator? spelling = some (op, spelling.length) →
      ∃ u n, Cursor.lexeme (spelling ++ rest) position = (.token u, n) ∧ spelling.length ≤ n ∧
        (n = spelling.length → u = .operator op) := by
    intro op spelling hspelling
    obtain ⟨op', n, hread, hle, hop⟩ := Cursor.operator?_append hspelling rest
    refine ⟨.operator op', n, ?_, hle, fun hn => by rw [hop hn]⟩
    simp only [Cursor.lexeme, hread]
  cases h with
  | operator op => exact hoperator (operator?_symbol op)
  | and => exact hoperator rfl
  | or => exact hoperator rfl
  | leftParen => exact ⟨.leftParen, 1, rfl, Nat.le_refl _, fun _ => rfl⟩
  | rightParen => exact ⟨.rightParen, 1, rfl, Nat.le_refl _, fun _ => rfl⟩
  | number hfixed hread =>
    obtain ⟨x, n, hlexeme, hle, hx⟩ := Cursor.lexeme_number_append hfixed rest position
    refine ⟨.number x, n, hlexeme, hle, fun hn => ?_⟩
    rw [hx hn, Option.some.inj ((readFloat?_fixedText hfixed).symm.trans hread)]
  | string hquote =>
    exact ⟨_, _, Cursor.lexeme_string hquote rest position, Nat.le_refl _, fun _ => rfl⟩
  | @word c cs hstart hname =>
    -- the word goes on with the characters of names behind it, if there are any
    have hrun : (cs ++ rest).takeWhile isNameChar = cs ++ rest.takeWhile isNameChar :=
      List.takeWhile_append_of_pos hname
    refine ⟨_, _, Cursor.lexeme_of_wordStart hstart (cs ++ rest) position, ?_, fun hn => ?_⟩
    · rw [hrun, ← List.cons_append, List.length_append]
      omega
    · rw [hrun, ← List.cons_append, List.length_append] at hn
      have hmore : rest.takeWhile isNameChar = [] := List.length_eq_zero_iff.mp (by omega)
      rw [hrun, hmore, List.append_nil]

/-- The characters that an operator takes are one of its spellings. -/
theorem isSpelling_of_operator? {op : Operator} (h : Cursor.operator? cs = some (op, n)) :
    (cs.take n).length = n ∧ IsSpelling (.operator op) (cs.take n) := by
  unfold Cursor.operator? at h
  split at h
  all_goals first
    | cases h; exact ⟨rfl, .operator _⟩
    | cases h; exact ⟨rfl, .and⟩
    | cases h; exact ⟨rfl, .or⟩
    | cases h

/-- The characters that a number takes are one of its spellings. -/
theorem isSpelling_number (hdigit : c.isDigit = true) (cs : List Char) :
    let whole := (c :: cs).takeWhile Char.isDigit
    let part := Cursor.fraction ((c :: cs).drop whole.length)
    let taken := (c :: cs).take (whole.length + if part = [] then 0 else part.length + 1)
    taken.length = (whole.length + if part = [] then 0 else part.length + 1) ∧
      IsSpelling (.number (ofFixed whole part)) taken := by
  intro whole part taken
  have htaken : taken = fixedText whole part := by
    simp only [taken]
    rw [List.take_add, take_length_takeWhile, Cursor.take_fraction, fixedText]
  have hfixed : IsFixed whole part := by
    refine ⟨?_, fun d hd => List.mem_takeWhile_imp hd,
      fun d hd => Cursor.isDigit_of_mem_fraction hd⟩
    simp only [whole, List.takeWhile_cons_of_pos hdigit, ne_eq, List.cons_ne_nil, not_false_eq_true]
  rw [htaken, length_fixedText]
  exact ⟨rfl, .number hfixed (readFloat?_fixedText hfixed)⟩

/-- What is read as a token is one of its spellings. -/
theorem isSpelling_of_lexeme (h : Cursor.lexeme cs position = (.token t, n)) :
    (cs.take n).length = n ∧ IsSpelling t (cs.take n) := by
  -- one case for each kind of token, in the order in which the lexer asks for them
  unfold Cursor.lexeme at h
  split at h
  · next op m hoperator =>
    obtain ⟨ht, rfl⟩ := Prod.mk.inj h
    cases ht
    exact isSpelling_of_operator? hoperator
  · split at h
    · cases h
    · next c rest hoperator =>
      split at h
      · next hc =>
        cases h
        rw [hc]
        exact ⟨rfl, .leftParen⟩
      split at h
      · next hc =>
        cases h
        rw [hc]
        exact ⟨rfl, .rightParen⟩
      split at h
      · cases h
      split at h
      · next hc =>
        simp only at h
        split at h
        · next hlt =>
          cases h
          rw [hc, take_quoted hlt]
          refine ⟨by simp, .string fun hmem => ?_⟩
          simpa using List.mem_takeWhile_imp hmem
        · cases h
      split at h
      · next hdigit =>
        cases h
        exact isSpelling_number hdigit rest
      split at h
      · next hstart =>
        cases h
        rw [List.length_cons, List.take_succ_cons, take_length_takeWhile]
        exact ⟨rfl, .word hstart fun d hd => List.mem_takeWhile_imp hd⟩
      · cases h

/-- What is read as a token is at least as long as every spelling at its place. -/
theorem length_le_of_lexeme (h : Cursor.lexeme cs position = (.token t, n))
    (hspells : IsSpelling u spelling) (hfront : spelling <+: cs) : spelling.length ≤ n := by
  obtain ⟨rest, rfl⟩ := hfront
  obtain ⟨v, m, hlexeme, hle, -⟩ := hspells.lexeme_append rest position
  rw [h] at hlexeme
  cases hlexeme
  exact hle

/-- The longest spelling at its place is read as its token. -/
theorem IsSpelling.lexeme_of_isLongest (h : IsSpelling t spelling)
    (hlongest : IsLongest spelling (spelling ++ rest)) (position : Nat) :
    Cursor.lexeme (spelling ++ rest) position = (.token t, spelling.length) := by
  obtain ⟨u, n, hlexeme, hle, hsame⟩ := h.lexeme_append rest position
  obtain ⟨hlength, hspells⟩ := isSpelling_of_lexeme hlexeme
  -- what is read is a spelling at this place itself, so it is no longer
  have hn : n = spelling.length := by
    have hle' := hlongest u _ hspells (List.take_prefix n _)
    omega
  rw [hlexeme, hsame hn, hn]

/-! ## Spellings that nothing makes longer -/

theorem mem_operatorChars_of_symbol {op : Operator} (hc : c ∈ op.symbol.toList) :
    c ∈ Cursor.operatorChars := by
  have hall : op.symbol.toList.all Cursor.operatorChars.contains = true := by
    cases op with
    | negation => decide
    | binary op => cases op <;> decide
  exact List.contains_iff_mem.mp (List.all_eq_true.mp hall c hc)

/-- The characters of operators. -/
theorem mem_operatorChars {op : Operator}
    (hspelling : Cursor.operator? spelling = some (op, spelling.length)) (hc : c ∈ spelling) :
    c ∈ Cursor.operatorChars := by
  have hspells := (isSpelling_of_operator? hspelling).2
  rw [List.take_length] at hspells
  cases hspells with
  | operator => exact mem_operatorChars_of_symbol hc
  | and => rw [List.mem_singleton.mp hc]; decide
  | or => rw [List.mem_singleton.mp hc]; decide

theorem IsSpelling.ne_nil (h : IsSpelling t spelling) : spelling ≠ [] := by
  rintro rfl
  obtain ⟨u, n, hlexeme, -⟩ := h.lexeme_append [] 0
  exact (Cursor.lexeme_pos hlexeme).2 rfl

/-- A string has its two quotes at its ends, and a parenthesis stands alone.  No other spelling has
white space, a closing parenthesis or a quote in it. -/
theorem IsSpelling.string_or_unmarked (h : IsSpelling t spelling) :
    (∃ body, Cursor.quote ∉ body ∧ spelling = Cursor.quote :: (body ++ [Cursor.quote])) ∨
      spelling = [')'] ∨ ∀ c ∈ spelling, isSpace c = false ∧ c ≠ ')' ∧ c ≠ Cursor.quote := by
  have hmarks : ('.' :: '(' :: Cursor.operatorChars).all
      (fun c => !isSpace c && c != ')' && c != Cursor.quote) = true := by decide +kernel
  have hmark : ∀ c ∈ '.' :: '(' :: Cursor.operatorChars,
      isSpace c = false ∧ c ≠ ')' ∧ c ≠ Cursor.quote := by
    intro c hc
    simpa [and_assoc] using List.all_eq_true.mp hmarks c hc
  have hname : ∀ c, isNameChar c = true → isSpace c = false ∧ c ≠ ')' ∧ c ≠ Cursor.quote := by
    intro c hc
    exact ⟨isSpace_of_isNameChar hc, ne_of_holds hc (isNameChar_eq_of_lt (by decide)),
      ne_of_holds hc (isNameChar_eq_of_lt (by decide))⟩
  cases h with
  | operator op =>
    refine .inr (.inr fun c hc => hmark c ?_)
    simp [mem_operatorChars_of_symbol hc]
  | and => exact .inr (.inr (List.forall_mem_singleton.mpr (hmark '&' (by decide))))
  | or => exact .inr (.inr (List.forall_mem_singleton.mpr (hmark '|' (by decide))))
  | leftParen => exact .inr (.inr (List.forall_mem_singleton.mpr (hmark '(' (by decide))))
  | rightParen => exact .inr (.inl rfl)
  | number hfixed _ =>
    refine .inr (.inr fun c hc => ?_)
    rcases mem_fixedText hfixed hc with rfl | hdigit
    · exact hmark '.' List.mem_cons_self
    · exact hname c (isNameChar_of_isBareChar (isBareChar_of_isDigit hdigit))
  | string hquote => exact .inl ⟨_, hquote, rfl⟩
  | word hstart hrest =>
    refine .inr (.inr (List.forall_mem_cons.mpr ⟨?_, fun d hd => hname d (hrest d hd)⟩))
    exact hname _ (isNameChar_of_wordStart hstart)

/-- A spelling does not start with white space. -/
theorem IsSpelling.isSpace_head (h : IsSpelling t (c :: cs)) : isSpace c = false := by
  rcases h.string_or_unmarked with ⟨body, -, heq⟩ | heq | hall
  · rw [(List.cons.inj heq).1]
    exact isSpace_eq_of_lt (by decide)
  · rw [(List.cons.inj heq).1]
    exact isSpace_eq_of_lt (by decide)
  · exact (hall c List.mem_cons_self).1

/-- White space and closing parentheses make no spelling longer. -/
theorem IsSpelling.not_isSpelling_append (h : IsSpelling t spelling)
    (hc : isSpace c = true ∨ c = ')') (rest : List Char) :
    ¬IsSpelling u (spelling ++ c :: rest) := by
  intro hlonger
  obtain ⟨d, ds, rfl⟩ := List.exists_cons_of_ne_nil h.ne_nil
  rcases hlonger.string_or_unmarked with ⟨body, hbody, heq⟩ | heq | hall
  · -- the shorter one is a string too, so its last quote stands inside of the longer one
    rw [List.cons_append] at heq
    obtain ⟨rfl, htail⟩ := List.cons.inj heq
    rcases h.string_or_unmarked with ⟨inner, -, hinner⟩ | hparen | hall
    · rw [(List.cons.inj hinner).2, List.append_assoc, List.singleton_append] at htail
      apply hbody
      have hdrop := congrArg List.dropLast htail
      rw [List.dropLast_concat] at hdrop
      rw [← hdrop, List.dropLast_append_of_ne_nil (List.cons_ne_nil _ _),
        List.dropLast_cons_of_ne_nil (List.cons_ne_nil _ _)]
      exact List.mem_append_right _ List.mem_cons_self
    · exact absurd (List.cons.inj hparen).1 (by decide)
    · exact (hall Cursor.quote List.mem_cons_self).2.2 rfl
  · have hnil := (List.cons.inj heq).2
    simp at hnil
  · obtain ⟨hspace, hparen, -⟩ := hall c (List.mem_append_right _ List.mem_cons_self)
    rcases hc with hc | hc
    · rw [hc] at hspace
      cases hspace
    · exact hparen hc

/-- A spelling that is followed by white space or a closing parenthesis, or by nothing, is the
longest one at its place. -/
theorem IsSpelling.isLongest (h : IsSpelling t spelling)
    (hrest : ∀ c ∈ rest.head?, isSpace c = true ∨ c = ')') :
    IsLongest spelling (spelling ++ rest) := by
  intro u longer hlonger hfront
  by_contra hlength
  obtain ⟨more, rfl⟩ := List.prefix_of_prefix_length_le (List.prefix_append spelling rest) hfront
    (Nat.le_of_not_le hlength)
  rw [List.prefix_append_right_inj] at hfront
  cases more with
  | nil => simp at hlength
  | cons c more =>
    obtain ⟨tail, rfl⟩ := hfront
    exact h.not_isSpelling_append (hrest c rfl) more hlonger

/-- So it is read as its token. -/
theorem IsSpelling.lexeme_of_apart (h : IsSpelling t spelling)
    (hrest : ∀ c ∈ rest.head?, isSpace c = true ∨ c = ')') (position : Nat) :
    Cursor.lexeme (spelling ++ rest) position = (.token t, spelling.length) :=
  h.lexeme_of_isLongest (h.isLongest hrest) position

end DocQuery.Expression
