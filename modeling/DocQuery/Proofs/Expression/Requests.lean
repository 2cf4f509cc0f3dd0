import Mathlib
import DocQuery.Proofs.Expression.Spelling

/-!
# Requests Without End

A cursor can be asked what comes next as often as one likes, also behind the end of the text and
behind a defect.  Each request passes white space and takes a stretch of text for what it finds, and
the cursor stands directly behind that stretch.  What is taken is said by a relation that does not
mention how the text is read, and a request does exactly what the relation allows.

So requests that go on for ever find the tokens of the text, finitely many, and then the end or the
defect.  Nothing is left behind the end, and nothing behind a string that is never closed, so the
end is found from there on.  For any other defect no character is taken: the cursor stays in front
of it, and every further request finds it at the same place.

## Main definitions

- `Takes`: what stands behind white space, and the characters that are taken for it
- `Passes`: one request, as a relation
- `StandsIn`: a cursor whose position is the one of the text that it has still to read
- `Cursor.places`, `Cursor.answers`: a row of requests that never stops
- `ending`: what is found behind the last token

## Main statements

- `next_eq_iff`: a request does what the relation says
- `Passes.standsIn`, `standsIn_places`: one request keeps the position true, and so do all
- `answers_eq_tokens_append`: what all the requests find
- `answers_settle`: all of it for a text
-/

namespace DocQuery.Expression

open DocQuery.Text
open DocQuery.Path (Ends ends_nil ends_cons)

/-- What stands behind white space at a place, the characters that are taken for it, and the text
that is left. -/
inductive Takes (position : Nat) : Lexeme → List Char → List Char → Prop
  /-- The longest spelling there is -/
  | token {t : Token} {taken rest : List Char} (hspells : IsSpelling t taken)
      (hlongest : IsLongest taken (taken ++ rest)) : Takes position (.token t) taken rest
  | ended : Takes position .ended [] []
  /-- A quote without a second one, and all that stands behind it -/
  | openString {body : List Char} (hquote : Cursor.quote ∉ body) :
      Takes position (.failed (.unterminatedString position)) (Cursor.quote :: body) []
  | loneEquals {rest : List Char} (hrest : rest.head? ≠ some '=') :
      Takes position (.failed (.loneEquals position)) [] ('=' :: rest)
  /-- A character that no spelling begins with -/
  | stray {c : Char} {rest : List Char} (hspace : isSpace c = false)
      (hstart : ∀ t more, ¬IsSpelling t (c :: more)) :
      Takes position (.failed (.unexpectedCharacter c position)) [] (c :: rest)

/-- One request: what it finds at a cursor, and the cursor behind it. -/
inductive Passes (c : Cursor) (found : Lexeme) (d : Cursor) : Prop
  | intro (gap taken : List Char) (text : c.rest = gap ++ (taken ++ d.rest))
      (blank : ∀ x ∈ gap, isSpace x = true)
      (position : d.position = c.position + gap.length + taken.length)
      (takes : Takes (c.position + gap.length) found taken d.rest)

/-- A cursor stands in a text: its position is within the text, and what it has still to read is the
text from there on. -/
structure StandsIn (text : List Char) (c : Cursor) : Prop where
  position_le : c.position ≤ text.length
  rest_eq : c.rest = text.drop c.position

variable {c d : Cursor} {x : Char} {cs taken rest text : List Char} {t : Token} {found : Lexeme}
  {e : LexicalError} {n position : Nat}

/-! ## What is taken -/

namespace Cursor

/-- The equals sign is the only mark of operators that is no operator alone. -/
theorem operator?_ne_none (h : x ∈ operatorChars) (hequals : x ≠ '=') (cs : List Char) :
    operator? (x :: cs) ≠ none := by
  have hall : ∀ y ∈ operatorChars, y ≠ '=' → (operator? [y]).map (·.2) = some 1 := by
    simp [operatorChars, operator?]
  obtain ⟨⟨op, -⟩, hop, rfl⟩ := Option.map_eq_some_iff.mp (hall x h hequals)
  obtain ⟨op', n, hread, -⟩ := operator?_append hop cs
  rw [List.singleton_append] at hread
  rw [hread]
  exact Option.some_ne_none _

theorem operator?_loneEquals (hrest : rest.head? ≠ some '=') : operator? ('=' :: rest) = none := by
  cases rest with
  | nil => rfl
  | cons x rest =>
    unfold operator?
    split <;> simp_all

theorem lexeme_loneEquals (hrest : rest.head? ≠ some '=') (position : Nat) :
    lexeme ('=' :: rest) position = (.failed (.loneEquals position), 0) := by
  simp only [lexeme, operator?_loneEquals hrest]
  rfl

/-- A string that is never closed goes up to the end. -/
theorem lexeme_openString {body : List Char} (hquote : quote ∉ body) (position : Nat) :
    lexeme (quote :: body) position =
      (.failed (.unterminatedString position), (quote :: body).length) := by
  have hbody : body.takeWhile (· != quote) = body := by
    rw [List.takeWhile_eq_self_iff]
    intro c hc
    rw [bne_iff_ne]
    rintro rfl
    exact hquote hc
  have hoperator : operator? (quote :: body) = none := operator?_eq_none (by decide) _
  have hparens : quote ≠ '(' ∧ quote ≠ ')' ∧ quote ≠ '=' := by decide
  simp only [lexeme, hoperator, hparens, if_false, if_true, hbody, Nat.lt_irrefl, List.length_cons]

/-- A character that begins no operator and no parenthesis, no string, no number and no word is
stray, whatever stands behind it. -/
theorem lexeme_stray (hoperator : x ∉ operatorChars) (hleft : x ≠ '(') (hright : x ≠ ')')
    (hquote : x ≠ quote) (hdigit : ¬x.isDigit = true)
    (hword : ¬(isAlphabetic x || x == '_') = true) (cs : List Char) (position : Nat) :
    lexeme (x :: cs) position = (.failed (.unexpectedCharacter x position), 0) := by
  have hequals : x ≠ '=' := by
    rintro rfl
    exact hoperator (by decide)
  simp only [lexeme, operator?_eq_none hoperator, hleft, hright, hequals, hquote, hdigit, hword,
    Bool.false_eq_true, if_false]

end Cursor

/-- Text that is no token is one of the three defects. -/
theorem takes_of_failed (hspace : Ends isSpace cs)
    (h : Cursor.lexeme cs position = (.failed e, n)) :
    ∃ taken rest, cs = taken ++ rest ∧ taken.length = n ∧
      Takes position (.failed e) taken rest := by
  -- the questions in the order in which the lexer asks them; most of them are about tokens
  unfold Cursor.lexeme at h
  split at h
  · cases h
  · split at h
    · cases h
    · next c cs hoperator =>
      split at h
      · cases h
      next hleft =>
      split at h
      · cases h
      next hright =>
      split at h
      · next hequals =>
        cases h
        subst hequals
        refine ⟨[], '=' :: cs, rfl, rfl, .loneEquals fun hhead => ?_⟩
        obtain ⟨more, rfl⟩ := List.head?_eq_some_iff.mp hhead
        cases hoperator
      next hequals =>
      split at h
      · next hquote =>
        subst hquote
        simp only at h
        split at h
        · cases h
        · next hlength =>
          cases h
          have hbody : cs.takeWhile (· != Cursor.quote) = cs :=
            (List.takeWhile_prefix _).eq_of_length_le (Nat.le_of_not_lt hlength)
          refine ⟨Cursor.quote :: cs, [], by simp, by simp [hbody], .openString fun hmem => ?_⟩
          rw [← hbody] at hmem
          simpa using List.mem_takeWhile_imp hmem
      next hquote =>
      split at h
      · cases h
      next hdigit =>
      split at h
      · cases h
      next hword =>
      cases h
      -- the same questions are asked wherever this character stands, so nothing begins with it
      refine ⟨[], c :: cs, rfl, rfl, .stray (hspace c rfl) fun t more hspells => ?_⟩
      have hmark : c ∉ Cursor.operatorChars := fun hmem =>
        Cursor.operator?_ne_none hmem hequals cs hoperator
      obtain ⟨u, m, hread, -⟩ := hspells.lexeme_append [] position
      rw [List.append_nil,
        Cursor.lexeme_stray hmark hleft hright hquote hdigit hword more position] at hread
      cases hread

/-- What is found is one of the five cases. -/
theorem takes_of_lexeme (hspace : Ends isSpace cs)
    (h : Cursor.lexeme cs position = (found, n)) :
    ∃ taken rest, cs = taken ++ rest ∧ taken.length = n ∧ Takes position found taken rest := by
  cases found with
  | token t =>
    obtain ⟨hlength, hspells⟩ := isSpelling_of_lexeme h
    refine ⟨cs.take n, cs.drop n, (List.take_append_drop n cs).symm, hlength,
      .token hspells fun u longer hlonger hfront => ?_⟩
    rw [List.take_append_drop] at hfront
    rw [hlength]
    exact length_le_of_lexeme h hlonger hfront
  | ended =>
    obtain rfl := Cursor.eq_nil_of_lexeme_ended h
    cases h
    exact ⟨[], [], rfl, rfl, .ended⟩
  | failed e => exact takes_of_failed hspace h

/-- The five cases exclude each other, so each of them is what is found. -/
theorem Takes.lexeme_append (h : Takes position found taken rest) :
    Cursor.lexeme (taken ++ rest) position = (found, taken.length) := by
  cases h with
  | token hspells hlongest => exact hspells.lexeme_of_isLongest hlongest position
  | ended => rfl
  | openString hquote =>
    rw [List.append_nil]
    exact Cursor.lexeme_openString hquote position
  | loneEquals hrest => exact Cursor.lexeme_loneEquals hrest position
  | @stray c rest hspace hstart =>
    -- whatever else is found here would begin with a spelling that there is not
    rcases hread : Cursor.lexeme (c :: rest) position with ⟨other, n⟩
    obtain ⟨taken', rest', htext, rfl, htakes⟩ := takes_of_lexeme (ends_cons hspace rest) hread
    cases htakes with
    | token hspells _ =>
      obtain ⟨d, ds, rfl⟩ := List.exists_cons_of_ne_nil hspells.ne_nil
      obtain ⟨rfl, -⟩ := List.cons.inj htext
      exact absurd hspells (hstart _ _)
    | ended => cases htext
    | openString _ =>
      obtain ⟨rfl, -⟩ := List.cons.inj htext
      exact absurd (IsSpelling.string List.not_mem_nil) (hstart _ _)
    | loneEquals _ =>
      obtain ⟨rfl, -⟩ := List.cons.inj htext
      exact absurd (IsSpelling.operator (.binary .equal)) (hstart _ _)
    | stray _ _ =>
      obtain ⟨rfl, -⟩ := List.cons.inj htext
      exact hread

/-- What is found behind white space does not begin with white space. -/
theorem Takes.ends_isSpace (h : Takes position found taken rest) :
    Ends isSpace (taken ++ rest) := by
  cases h with
  | token hspells _ =>
    obtain ⟨c, cs, rfl⟩ := List.exists_cons_of_ne_nil hspells.ne_nil
    exact ends_cons hspells.isSpace_head _
  | ended => exact ends_nil _
  | openString _ => exact ends_cons (isSpace_eq_of_lt (by decide)) _
  | loneEquals _ => exact ends_cons (isSpace_eq_of_lt (by decide)) _
  | stray hspace _ => exact ends_cons hspace _

/-! ## One request -/

/-- A request passes white space and takes what it finds there, and it does nothing else. -/
theorem next_eq_iff : c.next = (found, d) ↔ Passes c found d := by
  constructor
  · intro h
    -- the white space is cut off, and what stands behind it is one of the five cases
    have hblank : ∀ x ∈ c.rest.takeWhile isSpace, isSpace x = true := fun x hx =>
      List.mem_takeWhile_imp hx
    have hends : Ends isSpace (c.rest.dropWhile isSpace) := by
      intro x hx
      have hhead := List.head?_dropWhile_not isSpace c.rest
      rwa [Option.mem_def.mp hx] at hhead
    have htext := (List.takeWhile_append_dropWhile (p := isSpace) (l := c.rest)).symm
    have hskip := Cursor.skipSpaces_of_gap htext hblank hends
    rcases hread : Cursor.lexeme (c.rest.dropWhile isSpace)
      (c.position + (c.rest.takeWhile isSpace).length) with ⟨other, n⟩
    obtain ⟨taken, rest, hsplit, rfl, htakes⟩ := takes_of_lexeme hends hread
    simp only [Cursor.next, hskip, hread] at h
    rw [hsplit, Cursor.advance_append] at h
    obtain ⟨rfl, rfl⟩ := Prod.mk.inj h
    exact ⟨_, taken, htext.trans (by rw [hsplit]), hblank, rfl, htakes⟩
  · rintro ⟨gap, taken, htext, hblank, hposition, htakes⟩
    -- no white space is taken, so the cut is made at the same place
    have hskip := Cursor.skipSpaces_of_gap htext hblank htakes.ends_isSpace
    simp only [Cursor.next, hskip, htakes.lexeme_append, Cursor.advance_append, ← hposition]

namespace Passes

/-- At the end nothing but white space was left. -/
theorem blank_of_ended (h : Passes c .ended d) : ∀ x ∈ c.rest, isSpace x = true := by
  obtain ⟨gap, taken, htext, hblank, -, htakes⟩ := h
  -- the text that is left is an index of the relation, so the cases need a variable for it
  generalize d.rest = rest at htext htakes
  cases htakes
  rwa [htext, List.append_nil, List.append_nil]

theorem position_le (h : Passes c found d) : c.position ≤ d.position := by
  obtain ⟨gap, taken, -, -, hposition, -⟩ := h
  omega

/-- A token takes at least one character. -/
theorem position_lt (h : Passes c (.token t) d) : c.position < d.position := by
  obtain ⟨gap, taken, -, -, hposition, htakes⟩ := h
  have htaken : 0 < taken.length := by
    cases htakes with
    | token hspells _ => exact List.length_pos_iff.mpr hspells.ne_nil
  omega

/-- What is passed and what is taken are counted, so a position that was true stays true. -/
theorem standsIn (h : Passes c found d) (hc : StandsIn text c) : StandsIn text d := by
  obtain ⟨gap, taken, htext, -, hposition, -⟩ := h
  have hdrop : text.drop c.position = gap ++ (taken ++ d.rest) := hc.rest_eq.symm.trans htext
  constructor
  · have hlength := congrArg List.length hdrop
    have hle := hc.position_le
    simp only [List.length_drop, List.length_append] at hlength
    omega
  · rw [hposition, Nat.add_assoc, ← List.drop_drop, hdrop, ← List.drop_drop, List.drop_left,
      List.drop_left]

end Passes

/-! ## What is found again -/

/-- Where nothing is taken, the same is found again. -/
theorem next_of_takes_nil (h : Takes d.position found [] d.rest) : d.next = (found, d) :=
  next_eq_iff.mpr ⟨[], [], rfl, nofun, rfl, h⟩

theorem next_of_rest_eq_nil (h : d.rest = []) : d.next = (.ended, d) := by
  apply next_of_takes_nil
  rw [h]
  exact .ended

/-- Nothing is left behind the end, and nothing behind a string that is never closed. -/
theorem next_of_exhausted (h : c.next = (found, d))
    (hfound : found = .ended ∨ ∃ p, found = .failed (.unterminatedString p)) :
    d.next = (.ended, d) := by
  obtain ⟨gap, taken, -, -, -, htakes⟩ := next_eq_iff.mp h
  apply next_of_rest_eq_nil
  generalize d.rest = rest at htakes
  rcases hfound with rfl | ⟨p, rfl⟩
  · cases htakes
    rfl
  · cases htakes
    rfl

/-- Any other defect stays where it is, and the cursor in front of it. -/
theorem next_of_failed (h : c.next = (.failed e, d)) (he : ∀ p, e ≠ .unterminatedString p) :
    d.next = (.failed e, d) := by
  obtain ⟨gap, taken, -, -, hposition, htakes⟩ := next_eq_iff.mp h
  apply next_of_takes_nil
  generalize d.rest = rest at htakes ⊢
  cases htakes with
  | openString _ => exact absurd rfl (he _)
  | loneEquals hrest =>
    rw [hposition]
    exact .loneEquals hrest
  | stray hspace hstart =>
    rw [hposition]
    exact .stray hspace hstart

/-! ## Requests that never stop -/

namespace Cursor

/-- Where a cursor stands before each of the requests. -/
def places (c : Cursor) : Stream' Cursor := Stream'.iterate (fun d => d.next.2) c

/-- What the requests find, one after the other. -/
def answers (c : Cursor) : Stream' Lexeme := c.places.map fun d => d.next.1

/-- Each request starts where the one before it has left the cursor. -/
theorem next_places (c : Cursor) (n : Nat) :
    (c.places.get n).next = (c.answers.get n, c.places.get (n + 1)) := by
  rw [answers, Stream'.get_map, places, Stream'.get_succ_iterate']

theorem answers_of_next (h : c.next = (found, d)) : c.answers = .cons found d.answers := by
  have hfirst : c.answers = .cons c.next.1 c.next.2.answers :=
    Stream'.corec_eq (fun d : Cursor => d.next.1) (fun d => d.next.2) c
  rw [hfirst, h]

/-- The first requests of the row are a row of so many requests. -/
theorem take_answers (c : Cursor) (n : Nat) : c.answers.take n = lexemes n c := by
  induction n generalizing c with
  | zero => rfl
  | succ n ih =>
    rw [answers_of_next (Prod.mk.eta (p := c.next)).symm, Stream'.take_succ_cons, ih]
    rfl

/-- A request that leaves the cursor where it is finds the same for ever. -/
theorem answers_of_next_self (h : d.next = (found, d)) : d.answers = .const found := by
  have hcons : d.answers = .cons found d.answers := answers_of_next h
  apply Stream'.bisim_simple
  · rw [hcons, Stream'.head_cons]
    rfl
  · conv_rhs => rw [hcons, Stream'.tail_cons]
  · rw [Stream'.tail_const]

end Cursor

/-- What is found behind the last token: the end for ever, or a defect.  A string that is never
closed is found once, and then the end for ever; any other defect is found for ever. -/
def ending : Option LexicalError → Stream' Lexeme
  | none => .const .ended
  | some (.unterminatedString position) =>
    .cons (.failed (.unterminatedString position)) (.const .ended)
  | some (.loneEquals position) => .const (.failed (.loneEquals position))
  | some (.unexpectedCharacter c position) => .const (.failed (.unexpectedCharacter c position))

/-- All the requests find the tokens, and then what is behind the last one. -/
theorem answers_eq_tokens_append (c : Cursor) :
    c.answers = c.tokens.1.map Lexeme.token ++ₛ ending c.tokens.2 := by
  -- on the tokens; behind them, what the second request finds decides about all that follow
  induction c using Cursor.tokens.induct with
  | case1 c t d hnext ts failure _ ih =>
    rw [Cursor.answers_of_next hnext, Cursor.tokens_of_next hnext, ih, List.map_cons,
      Stream'.cons_append_stream]
  | case2 c d hnext =>
    have hagain := Cursor.answers_of_next_self (next_of_exhausted hnext (.inl rfl))
    rw [Cursor.answers_of_next hnext, Cursor.tokens_of_ended hnext, hagain, ← Stream'.const_eq]
    rfl
  | case3 c e d hnext =>
    rw [Cursor.answers_of_next hnext, Cursor.tokens_of_failed hnext, List.map_nil,
      Stream'.nil_append_stream]
    cases e with
    | unterminatedString p =>
      rw [Cursor.answers_of_next_self (next_of_exhausted hnext (.inr ⟨p, rfl⟩)), ending]
    | loneEquals p =>
      rw [Cursor.answers_of_next_self (next_of_failed hnext nofun), ← Stream'.const_eq, ending]
    | unexpectedCharacter x p =>
      rw [Cursor.answers_of_next_self (next_of_failed hnext nofun), ← Stream'.const_eq, ending]

/-- There are no more tokens than characters. -/
theorem length_tokens_le (c : Cursor) : c.tokens.1.length ≤ c.rest.length := by
  induction c using Cursor.tokens.induct with
  | case1 c t d hnext ts failure _ ih =>
    have hshorter := Cursor.length_next_lt hnext
    rw [Cursor.tokens_of_next hnext, List.length_cons]
    omega
  | case2 c d hnext =>
    rw [Cursor.tokens_of_ended hnext]
    exact Nat.zero_le _
  | case3 c e d hnext =>
    rw [Cursor.tokens_of_failed hnext]
    exact Nat.zero_le _

/-- Wherever the requests lead, the cursor stands in the text. -/
theorem standsIn_places (hc : StandsIn text c) (n : Nat) : StandsIn text (c.places.get n) := by
  induction n with
  | zero => exact hc
  | succ n ih => exact (next_eq_iff.mp (c.next_places n)).standsIn ih

/-- Requests at a text that never stop find its tokens, which are no more than it has characters,
and then the end for ever, or a string that is never closed and then the end for ever, or any other
defect for ever, always at the same place.  Each request passes white space and takes what it finds
behind it.  So the position is always one of the text, it never moves backwards, and every token
moves it forwards. -/
theorem answers_settle (text : String) :
    let c := Cursor.start text
    (∀ n, c.answers.take n = Cursor.lexemes n c) ∧
    c.answers = c.tokens.1.map Lexeme.token ++ₛ ending c.tokens.2 ∧
    c.tokens.1.length ≤ text.length ∧
    ∀ n,
      let before := c.places.get n
      let behind := c.places.get (n + 1)
      before.next = (c.answers.get n, behind) ∧
      Passes before (c.answers.get n) behind ∧
      StandsIn text.toList before ∧
      before.position ≤ behind.position ∧ behind.position ≤ text.length ∧
      ∀ t, c.answers.get n = .token t → before.position < behind.position := by
  intro c
  have hstart : StandsIn text.toList c := ⟨Nat.zero_le _, rfl⟩
  refine ⟨c.take_answers, answers_eq_tokens_append c, length_tokens_le c, fun n => ?_⟩
  have hpasses := next_eq_iff.mp (c.next_places n)
  refine ⟨c.next_places n, hpasses, standsIn_places hstart n, hpasses.position_le,
    (standsIn_places hstart (n + 1)).position_le, fun t ht => ?_⟩
  rw [ht] at hpasses
  exact hpasses.position_lt

example : Cursor.lexemes 4 (Cursor.start "a 'b") =
    [.token (.word "a"), .failed (.unterminatedString 2), .ended, .ended] := by decide +kernel

example : Cursor.lexemes 3 (Cursor.start "a = b") =
    [.token (.word "a"), .failed (.loneEquals 2), .failed (.loneEquals 2)] := by decide +kernel

end DocQuery.Expression
