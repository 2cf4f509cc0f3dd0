import Mathlib
import DocQuery.Proofs.Expression.Acceptance
import DocQuery.Proofs.Expression.Conservation
import DocQuery.Proofs.Expression.Tokenizing

/-!
# Which Defect Is Reported

A text is read token by token, and each token is worked off before the next one is read.  So of
several defects the first one counts: a closing parenthesis without a partner is reported before
text further right is looked at, and text that is no token before any parenthesis behind it.  That
a parenthesis is never closed shows only at the end.

Nothing else can go wrong, in whatever order operands and operators stand, and parentheses around a
text that can be converted change nothing.

## Main definitions

- `Yard.parse`: the conversion, with the tokens read one by one
- `Closed`: no closing parenthesis lacks a partner

## Main statements

- `Yard.toPostfix_eq_parse`: the tokens may be read one by one or all beforehand
- `nesting_eq_some_iff`: how many parentheses are open, by counting
- `Yard.convertRead_eq`: the four outcomes of a conversion
- `tokenize_paren`: the tokens of a text in parentheses
- `toPostfix_reports_first_defect`: which error is reported, and what is kept where there is none
-/

namespace DocQuery.Expression

open scoped List

variable {stack after : List Waiting} {items : List Item} {t : Token} {ts : List Token}

/-! ## Reading and converting -/

namespace Yard

/-- What is released when the text ahead of the cursor is read to its end.  Each token is worked
off before the next one is read. -/
def parse (stack : List Waiting) (c : Cursor) : Except ExprError (List Item) :=
  match _h : c.next with
  | (.token t, d) => do
    let (items, stack) ← step stack t
    let more ← parse stack d
    return items ++ more
  | (.ended, _) => finish stack
  | (.failed e, _) => .error (.lexical e)
termination_by c.rest.length
decreasing_by exact Cursor.length_next_lt _h

/-- What is released when all tokens have been read beforehand. -/
def convertRead (stack : List Waiting) (ts : List Token) (failure : Option LexicalError) :
    Except ExprError (List Item) := do
  let (items, stack) ← run stack ts
  match failure with
  | some e => .error (.lexical e)
  | none =>
    let last ← finish stack
    return items ++ last

theorem convertRead_cons (stack : List Waiting) (t : Token) (ts : List Token)
    (failure : Option LexicalError) :
    convertRead stack (t :: ts) failure = (do
      let (items, stack) ← step stack t
      let more ← convertRead stack ts failure
      return items ++ more) := by
  -- an error ends both at the same token; else both put the same items together
  simp only [convertRead, run, bind, Except.bind]
  cases step stack t with
  | error e => rfl
  | ok out =>
    obtain ⟨items, middle⟩ := out
    cases hrun : run middle ts with
    | error e => simp only [hrun]
    | ok out =>
      obtain ⟨more, last⟩ := out
      cases failure with
      | some e => simp only [hrun, pure, Except.pure]
      | none =>
        simp only [hrun, pure, Except.pure]
        cases finish last with
        | error e => rfl
        | ok rest => simp only [List.append_assoc]

/-- Reading ahead makes no difference. -/
theorem parse_eq_convertRead (stack : List Waiting) (c : Cursor) :
    parse stack c = convertRead stack c.tokens.1 c.tokens.2 := by
  -- on the text that is left
  induction hlength : c.rest.length using Nat.strong_induction_on generalizing stack c with
  | _ length ih =>
    rw [parse]
    split
    · next t d hnext =>
      have hshorter : d.rest.length < length := hlength ▸ Cursor.length_next_lt hnext
      rw [Cursor.tokens_of_next hnext, convertRead_cons]
      exact bind_congr fun (items, middle) => by
        dsimp only
        rw [ih _ hshorter middle d rfl]
    · next hnext =>
      rw [Cursor.tokens_of_ended hnext]
      exact (bind_pure _).symm
    · next hnext =>
      rw [Cursor.tokens_of_failed hnext]
      rfl

/-- The tokens may be read one by one or all beforehand. -/
theorem toPostfix_eq_parse (text : String) : toPostfix text = parse [] (Cursor.start text) :=
  (parse_eq_convertRead [] (Cursor.start text)).symm

end Yard

/-! ## Parentheses -/

/-- No closing parenthesis lacks a partner: wherever the row is cut, no more parentheses have been
closed than opened. -/
def Closed (ts : List Token) : Prop :=
  ∀ front, front <+: ts → front.count .rightParen ≤ front.count .leftParen

/-- The parentheses that are open behind a row are those opened and not closed, if none is closed
that is not open. -/
theorem nesting_eq_some_iff {depth left : Nat} :
    nesting depth ts = some left ↔
      (∀ front, front <+: ts → front.count .rightParen ≤ depth + front.count .leftParen) ∧
        left + ts.count .rightParen = depth + ts.count .leftParen := by
  -- on the tokens; a cut behind the first one is a cut of the others with another depth
  induction ts generalizing depth with
  | nil =>
    simp only [nesting, Option.some.injEq, List.prefix_nil, forall_eq, List.count_nil]
    omega
  | cons t ts ih =>
    have hcut : ∀ {P : List Token → Prop}, P [] →
        ((∀ front, front <+: t :: ts → P front) ↔ ∀ front, front <+: ts → P (t :: front)) := by
      intro P hnil
      constructor
      · intro h front hfront
        exact h (t :: front) ((List.prefix_cons_inj t).mpr hfront)
      · intro h front hfront
        obtain rfl | ⟨rest, rfl, hrest⟩ := List.prefix_cons_iff.mp hfront
        · exact hnil
        · exact h rest hrest
    rw [hcut (by simp)]
    cases t with
    | leftParen =>
      simp only [nesting, ih, List.count_cons, beq_iff_eq, reduceCtorEq, if_true, if_false]
      exact and_congr (forall₂_congr fun _ _ => by omega) (by omega)
    | rightParen =>
      simp only [List.count_cons, beq_iff_eq, reduceCtorEq, if_true, if_false]
      cases depth with
      | zero =>
        simp only [nesting, reduceCtorEq, false_iff, not_and]
        intro h
        exact absurd (h [] List.nil_prefix) (by simp)
      | succ depth =>
        simp only [nesting, ih]
        exact and_congr (forall₂_congr fun _ _ => by omega) (by omega)
    | literal l | operator op =>
      simp only [nesting, ih, List.count_cons, beq_iff_eq, reduceCtorEq, if_false, Nat.add_zero]

/-- A row is closed where the conversion does not run out of open parentheses. -/
theorem closed_iff : Closed ts ↔ nesting 0 ts ≠ none := by
  constructor
  · intro hclosed
    have hcount := hclosed ts List.prefix_rfl
    have hsome : nesting 0 ts = some (ts.count .leftParen - ts.count .rightParen) := by
      refine nesting_eq_some_iff.mpr ⟨fun front hfront => ?_, by omega⟩
      have := hclosed front hfront
      omega
    rw [hsome]
    exact Option.some_ne_none _
  · intro hne front hfront
    obtain ⟨left, hleft⟩ := Option.ne_none_iff_exists'.mp hne
    have := (nesting_eq_some_iff.mp hleft).1 front hfront
    omega

/-! ## Errors of the conversion -/

namespace Yard

/-- A closing parenthesis is refused only where none is open. -/
theorem close_eq_error {e : ExprError} (h : close stack = .error e) :
    e = .unmatchedParen ∧ stack.count .paren = 0 := by
  induction stack with
  | nil =>
    cases h
    exact ⟨rfl, rfl⟩
  | cons top stack ih =>
    cases top with
    | paren => cases h
    | operator op =>
      rw [close] at h
      cases hclose : close stack with
      | ok out => rw [hclose] at h; cases h
      | error e' =>
        rw [hclose] at h
        cases h
        obtain ⟨he, hcount⟩ := ih hclose
        exact ⟨he, by simpa using hcount⟩

/-- A token is refused only if it closes a parenthesis and none is open. -/
theorem step_eq_error {e : ExprError} (h : step stack t = .error e) :
    e = .unmatchedParen ∧ nesting (stack.count .paren) (t :: ts) = none := by
  cases t with
  | literal l => cases h
  | leftParen => cases h
  | rightParen =>
    obtain ⟨he, hcount⟩ := close_eq_error h
    refine ⟨he, ?_⟩
    rw [hcount]
    rfl
  | operator op => cases op <;> cases h

/-- So a row of tokens is refused only at such a parenthesis. -/
theorem run_eq_error {e : ExprError} (h : run stack ts = .error e) :
    e = .unmatchedParen ∧ nesting (stack.count .paren) ts = none := by
  -- on the tokens; a step that succeeds leaves as many parentheses open as the nesting counts
  induction ts generalizing stack with
  | nil => cases h
  | cons t ts ih =>
    rw [run] at h
    cases hstep : step stack t with
    | error e' =>
      rw [hstep] at h
      cases h
      exact step_eq_error hstep
    | ok out =>
      obtain ⟨first, middle⟩ := out
      rw [hstep] at h
      cases hrun : run middle ts with
      | ok out => simp only [bind, Except.bind, hrun] at h; cases h
      | error e' =>
        simp only [bind, Except.bind, hrun] at h
        cases h
        obtain ⟨he, hnone⟩ := ih hrun
        rw [nesting_step hstep]
        exact ⟨he, hnone⟩

/-- The end is refused only if a parenthesis is still open. -/
theorem finish_eq_error {e : ExprError} (h : finish stack = .error e) :
    e = .unclosedParen ∧ stack.count .paren ≠ 0 := by
  induction stack with
  | nil => cases h
  | cons top stack ih =>
    cases top with
    | paren =>
      cases h
      exact ⟨rfl, by simp⟩
    | operator op =>
      rw [finish] at h
      cases hfinish : finish stack with
      | ok items => rw [hfinish] at h; cases h
      | error e' =>
        rw [hfinish] at h
        cases h
        obtain ⟨he, hcount⟩ := ih hfinish
        exact ⟨he, by simpa using hcount⟩

/-- What the conversion of a row of tokens comes to, by the parentheses that it leaves open: none
may be missing, then there may be no text that is no token, and then none may be left. -/
theorem convertRead_eq (ts : List Token) (failure : Option LexicalError) :
    (nesting 0 ts = none ∧ convertRead [] ts failure = .error .unmatchedParen) ∨
      (nesting 0 ts ≠ none ∧ ∃ e, failure = some e ∧
        convertRead [] ts failure = .error (.lexical e)) ∨
      ((∃ n, nesting 0 ts = some (n + 1)) ∧ failure = none ∧
        convertRead [] ts failure = .error .unclosedParen) ∨
      (nesting 0 ts = some 0 ∧ failure = none ∧ ∃ items, convert ts = .ok items ∧
        convertRead [] ts failure = .ok items) := by
  cases hrun : run [] ts with
  | error e =>
    -- a closing parenthesis stops the run before the end of the tokens
    obtain ⟨rfl, hnone⟩ := run_eq_error hrun
    refine .inl ⟨hnone, ?_⟩
    rw [convertRead, hrun]
    rfl
  | ok out =>
    obtain ⟨first, stack⟩ := out
    -- otherwise the stack holds the parentheses that are still open
    have hnesting : nesting 0 ts = some (stack.count .paren) := (surplus_run hrun).2
    refine .inr ?_
    cases failure with
    | some e =>
      refine .inl ⟨by rw [hnesting]; exact Option.some_ne_none _, e, rfl, ?_⟩
      rw [convertRead, hrun]
      rfl
    | none =>
      refine .inr ?_
      have hread : convertRead [] ts none = convert ts := by
        rw [convertRead, convert, hrun]
      cases hfinish : finish stack with
      | error e =>
        obtain ⟨rfl, hcount⟩ := finish_eq_error hfinish
        obtain ⟨n, hn⟩ := Nat.exists_eq_succ_of_ne_zero hcount
        refine .inl ⟨⟨n, by rw [hnesting, hn]⟩, rfl, ?_⟩
        simp only [hread, convert, hrun, bind, Except.bind, hfinish]
      | ok last =>
        have hcount := (surplus_finish hfinish).2
        have hconvert := convert_eq_ok.mpr ⟨first, stack, last, hrun, hfinish, rfl⟩
        refine .inr ⟨by rw [hnesting, hcount], rfl, first ++ last, hconvert, ?_⟩
        rw [hread, hconvert]

end Yard

/-! ## Parentheses around a text -/

/-- A closing parenthesis makes no spelling in front of it longer. -/
theorem IsLongest.append_rightParen {spelling text : List Char} (h : IsLongest spelling text)
    (hfront : spelling <+: text) (hne : spelling ≠ []) :
    IsLongest spelling (text ++ [')']) := by
  intro u longer hlonger hprefix
  obtain hinside | rfl := List.prefix_concat_iff.mp hprefix |>.symm
  · exact h u longer hlonger hinside
  · -- the parenthesis would be the last character of a spelling that is not just a parenthesis
    exfalso
    rcases hlonger.string_or_unmarked with ⟨body, -, heq⟩ | heq | hall
    · rw [← List.cons_append] at heq
      exact absurd (List.append_inj' heq rfl).2 (by decide)
    · have htext : text = [] := List.append_left_eq_self.mp heq
      exact hne (List.prefix_nil.mp (htext ▸ hfront))
    · exact (hall ')' (by simp)).2.1 rfl

/-- A closing parenthesis, as it is written. -/
def closing : WrittenToken := ⟨.rightParen, [')'], [], .rightParen, nofun⟩

theorem rowText_append_closing (row : List WrittenToken) :
    rowText (row ++ [closing]) = rowText row ++ [')'] := by
  simp [rowText, closing]

/-- A row of longest spellings is one with a closing parenthesis behind it too. -/
theorem Longest.append_closing {row : List WrittenToken} (h : Longest row) :
    Longest (row ++ [closing]) := by
  induction row with
  | nil => exact ⟨closing.spells.isLongest nofun, trivial⟩
  | cons w row ih =>
    have hfirst : IsLongest w.spelling (rowText (w :: row ++ [closing])) := by
      rw [rowText_append_closing]
      refine h.1.append_rightParen ?_ w.spells.ne_nil
      rw [rowText_cons]
      exact List.prefix_append _ _
    exact ⟨hfirst, ih h.2⟩

/-- The tokens of a text in parentheses are those of the text, in parentheses. -/
theorem tokenize_paren {text : String} (h : tokenize text = .ok ts) :
    tokenize ("(" ++ text ++ ")") = .ok (.leftParen :: ts ++ [.rightParen]) := by
  obtain ⟨lead, row, htext, hlead, hlongest, rfl⟩ := (tokenize_iff_rowText.2 text ts).mp h
  have hwrapped : ("(" ++ text ++ ")").toList = '(' :: (lead ++ rowText (row ++ [closing])) := by
    rw [String.toList_append, String.toList_append, htext, rowText_append_closing]
    simp
  have hinside : Reads (lead ++ rowText (row ++ [closing]))
      (row.map (·.token) ++ [.rightParen]) := by
    have hrow := (reads_rowText hlongest.append_closing).blanks hlead
    rwa [List.map_append] at hrow
  rw [tokenize_eq_ok_iff, Cursor.start, hwrapped]
  exact hinside.leftParen 0

/-! ## The conversion of a text -/

/-- A text is converted token by token, none being read before the one in front of it is worked
off, and the first defect is reported.  That is a closing parenthesis without a partner, if the
tokens in front of text that is no token hold one; else that text, if there is any; else an opening
parenthesis that is never closed.  Every other text can be converted.  Then the operands are those
of the text in their order, the operators are those of the text, and parentheses around the text
change nothing. -/
theorem toPostfix_reports_first_defect (text : String) :
    let ts := (Cursor.start text).tokens.1
    let failure := (Cursor.start text).tokens.2
    toPostfix text = Yard.parse [] (Cursor.start text) ∧
    (toPostfix text = .error .unmatchedParen ↔ ¬Closed ts) ∧
    (∀ e, toPostfix text = .error (.lexical e) ↔ Closed ts ∧ failure = some e) ∧
    (toPostfix text = .error .unclosedParen ↔
      Closed ts ∧ failure = none ∧ ts.count .rightParen < ts.count .leftParen) ∧
    ((∃ items, toPostfix text = .ok items) ↔
      Closed ts ∧ failure = none ∧ ts.count .rightParen = ts.count .leftParen) ∧
    ∀ items, toPostfix text = .ok items →
      items.filterMap Item.literal? = ts.filterMap Token.literal? ∧
      items.filterMap Item.operator? ~ ts.filterMap Token.operator? ∧
      toPostfix ("(" ++ text ++ ")") = .ok items := by
  intro ts failure
  have hconvert : toPostfix text = Yard.convertRead [] ts failure := rfl
  refine ⟨Yard.toPostfix_eq_parse text, ?_⟩
  rw [hconvert, closed_iff]
  -- one case for each of the four outcomes, which exclude one another
  obtain ⟨hnesting, houtcome⟩ | ⟨hnesting, e, hfailure, houtcome⟩ |
    ⟨⟨n, hnesting⟩, hfailure, houtcome⟩ | ⟨hnesting, hfailure, items, hitems, houtcome⟩ :=
    Yard.convertRead_eq ts failure
  · rw [houtcome]
    simp [hnesting]
  · rw [houtcome]
    simp [hnesting, hfailure, eq_comm]
  · obtain ⟨-, hcount⟩ := nesting_eq_some_iff.mp hnesting
    have hlt : ts.count .rightParen < ts.count .leftParen := by omega
    rw [houtcome]
    simp [hnesting, hfailure, hlt, hlt.ne]
  · obtain ⟨-, hcount⟩ := nesting_eq_some_iff.mp hnesting
    have heq : ts.count .rightParen = ts.count .leftParen := by omega
    obtain ⟨hliterals, hoperators⟩ := Yard.conserves_convert hitems
    have htokens : tokenize text = .ok ts := tokenize_eq_ok_iff.mpr (Prod.ext rfl hfailure)
    have hparen : toPostfix ("(" ++ text ++ ")") = .ok items := by
      rw [toPostfix_of_tokenize (tokenize_paren htokens), Yard.convert_paren hitems]
    rw [houtcome]
    simp [hnesting, hfailure, heq, hliterals, hoperators, hparen]

/-- An operator without operands in front of it, and one behind everything; a parenthesis too many
in front of a stray character, and behind one; a parenthesis that is never closed. -/
theorem toPostfix_reports_first_defect_misplaced :
    let items : List Item := [.literal (.number (Decimal.ofFixed ['1'] [])),
      .literal (.number (Decimal.ofFixed ['2'] [])), .operator (.binary .add), .operator .negation]
    (toPostfix "1 (+ 2) !" = .ok items ∧ toPostfix "(1 (+ 2) !)" = .ok items) ∧
    toPostfix "(1)) = 2" = .error .unmatchedParen ∧
    toPostfix "(1 = ))" = .error (.lexical (.loneEquals 3)) ∧
    toPostfix "((1)" = .error .unclosedParen := by
  intro items
  have hitems : toPostfix "1 (+ 2) !" = .ok items := by
    rw [toPostfix_of_tokenize (tokenize_of_lexemes (by rfl) : tokenize "1 (+ 2) !" = .ok
      [.number (Decimal.ofFixed ['1'] []), .leftParen, .binary .add,
        .number (Decimal.ofFixed ['2'] []), .rightParen, .operator .negation])]
    rfl
  obtain ⟨-, -, -, -, -, hkept⟩ := toPostfix_reports_first_defect "1 (+ 2) !"
  obtain ⟨-, hunmatched, -⟩ := toPostfix_reports_first_defect "(1)) = 2"
  obtain ⟨-, -, hlexical, -⟩ := toPostfix_reports_first_defect "(1 = ))"
  obtain ⟨-, -, -, hunclosed, -⟩ := toPostfix_reports_first_defect "((1)"
  refine ⟨⟨hitems, (hkept _ hitems).2.2⟩, ?_, ?_, ?_⟩
  · rw [hunmatched, closed_iff]
    decide +kernel
  · rw [hlexical, closed_iff]
    decide +kernel
  · rw [hunclosed, closed_iff]
    decide +kernel

end DocQuery.Expression
