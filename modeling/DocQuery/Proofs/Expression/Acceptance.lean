import Mathlib
import DocQuery.Proofs.Expression.Grammar
import DocQuery.Proofs.Expression.Postorder

/-!
# Which Expressions Are Accepted

The conversion to postfix order does not ask whether an operand or an operator is due.  So a text
may have a truth value although it is no infix expression: an operator may stand behind its
operands, or in front of them.  Where that happens two operands stand side by side, and this is the
only thing that can be wrong with a text that has a truth value: one in which no operand directly
follows another is an infix expression.

Each operand adds one to what is left on the stack in the end, and each operator between two
operands takes one away.  If no two operands are side by side, every further slip can only take
more away, and then less than one value is left.

## Main definitions

- `Token.Apart`: two tokens are not operands side by side
- `Balanced`: every parenthesis has its partner
- `surplus`: how many values a row of tokens leaves on the stack
- `Completes`: what follows an operand in an infix expression

## Main statements

- `Yard.surplus_convert`: what the conversion keeps
- `exists_derives_row`: operands with operators between them are an infix expression
- `begins_or_completes`: tokens without operands side by side that leave one value
- `derives_iff_of_evaluate`: which accepted texts are infix expressions
-/

namespace DocQuery.Expression

/-! ## Side by side -/

/-- Whether a token is the last one of an operand. -/
def Token.endsOperand : Token → Bool
  | .literal _ | .rightParen => true
  | .operator _ | .leftParen => false

/-- Whether a token is the first one of an operand. -/
def Token.startsOperand : Token → Bool
  | .literal _ | .leftParen | .operator .negation => true
  | .operator (.binary _) | .rightParen => false

/-- An operand does not directly follow another one. -/
def Token.Apart (a b : Token) : Prop := ¬(a.endsOperand = true ∧ b.startsOperand = true)

/-! ## Parentheses -/

/-- How many parentheses are open behind a row of tokens, if `depth` are open in front of it.  A
closing parenthesis needs an open one. -/
def nesting (depth : Nat) : List Token → Option Nat
  | [] => some depth
  | .leftParen :: ts => nesting (depth + 1) ts
  | .rightParen :: ts =>
    match depth with
    | 0 => none
    | depth + 1 => nesting depth ts
  | .literal _ :: ts | .operator _ :: ts => nesting depth ts

/-- Every parenthesis has its partner. -/
def Balanced (ts : List Token) : Prop := nesting 0 ts = some 0

/-! ## Surplus -/

/-- What an operator adds to the number of values on the stack. -/
def Operator.surplus : Operator → Int
  | .negation => 0
  | .binary _ => -1

/-- What a token adds to the number of values on the stack. -/
def Token.surplus : Token → Int
  | .literal _ => 1
  | .operator op => op.surplus
  | .leftParen | .rightParen => 0

/-- What an item adds to the number of values on the stack. -/
def Item.surplus : Item → Int
  | .literal _ => 1
  | .operator op => op.surplus

/-- What is going to be added when a waiting operator is released. -/
def Waiting.surplus : Waiting → Int
  | .operator op => op.surplus
  | .paren => 0

/-- How many values a row of tokens leaves on the stack. -/
def surplus (ts : List Token) : Int := (ts.map Token.surplus).sum

/-- How many values a row of items leaves on the stack. -/
def surplusOfItems (items : List Item) : Int := (items.map Item.surplus).sum

/-- How many values are added when all that waits is released. -/
def surplusOfWaiting (stack : List Waiting) : Int := (stack.map Waiting.surplus).sum

theorem surplus_cons (t : Token) (ts : List Token) : surplus (t :: ts) = t.surplus + surplus ts :=
  List.sum_cons

theorem surplusOfItems_cons (item : Item) (items : List Item) :
    surplusOfItems (item :: items) = item.surplus + surplusOfItems items :=
  List.sum_cons

theorem surplusOfWaiting_cons (w : Waiting) (stack : List Waiting) :
    surplusOfWaiting (w :: stack) = w.surplus + surplusOfWaiting stack :=
  List.sum_cons

theorem surplusOfItems_append (items more : List Item) :
    surplusOfItems (items ++ more) = surplusOfItems items + surplusOfItems more := by
  simp [surplusOfItems]

/-- A tree leaves one value. -/
theorem surplusOfItems_postorder (t : Tree) : surplusOfItems t.postorder = 1 := by
  induction t with
  | literal l => rfl
  | negation t ih =>
    rw [Tree.postorder, surplusOfItems_append, ih]
    rfl
  | binary op l r ihl ihr =>
    rw [Tree.postorder, surplusOfItems_append, surplusOfItems_append, ihl, ihr]
    rfl

/-! ## What the conversion keeps -/

namespace Yard

theorem surplus_release (op : Operator) (stack : List Waiting) :
    surplusOfItems (release op stack).1 + surplusOfWaiting (release op stack).2 =
      surplusOfWaiting stack := by
  induction stack with
  | nil => rfl
  | cons top stack ih =>
    cases top with
    | paren => exact Int.zero_add _
    | operator top =>
      simp only [release]
      split
      · simp only [surplusOfItems_cons, surplusOfWaiting_cons, Item.surplus, Waiting.surplus]
        omega
      · exact Int.zero_add _

theorem count_paren_release (op : Operator) (stack : List Waiting) :
    (release op stack).2.count .paren = stack.count .paren := by
  induction stack with
  | nil => rfl
  | cons top stack ih =>
    cases top with
    | paren => rfl
    | operator top =>
      simp only [release]
      split
      · simpa using ih
      · rfl

/-- A parenthesis that closes releases what it encloses, and takes its partner away. -/
theorem surplus_close {stack after : List Waiting} {items : List Item}
    (h : close stack = .ok (items, after)) :
    surplusOfItems items + surplusOfWaiting after = surplusOfWaiting stack ∧
      stack.count .paren = after.count .paren + 1 := by
  -- on the stack; operators are released until the partner lies on top
  induction stack generalizing items with
  | nil => cases h
  | cons top stack ih =>
    cases top with
    | paren =>
      cases h
      exact ⟨by simp [surplusOfItems, surplusOfWaiting_cons, Waiting.surplus], by simp⟩
    | operator op =>
      obtain ⟨more, hclose, rfl⟩ := close_operator_eq_ok.mp h
      obtain ⟨hsurplus, hcount⟩ := ih hclose
      constructor
      · simp only [surplusOfItems_cons, surplusOfWaiting_cons, Item.surplus, Waiting.surplus]
        omega
      · simpa using hcount

/-- No token gains or loses values: those it adds are in the output or still waiting. -/
theorem surplus_step {stack after : List Waiting} {items : List Item} {t : Token}
    (h : step stack t = .ok (items, after)) :
    surplusOfItems items + surplusOfWaiting after = surplusOfWaiting stack + t.surplus := by
  cases t with
  | literal l =>
    cases h
    exact Int.add_comm _ _
  | leftParen =>
    cases h
    simp [surplusOfItems, surplusOfWaiting_cons, Waiting.surplus, Token.surplus]
  | rightParen =>
    have hclose := (surplus_close h).1
    simpa [Token.surplus] using hclose
  | operator op =>
    cases op with
    | negation =>
      cases h
      simp [surplusOfItems, surplusOfWaiting_cons, Waiting.surplus, Token.surplus,
        Operator.surplus]
    | binary op =>
      cases h
      have hrelease := surplus_release (.binary op) stack
      simp only [surplusOfWaiting_cons, Waiting.surplus, Token.surplus]
      omega

/-- A token changes the number of open parentheses as it changes those on the stack. -/
theorem nesting_step {stack after : List Waiting} {items : List Item} {t : Token}
    (h : step stack t = .ok (items, after)) (ts : List Token) :
    nesting (stack.count .paren) (t :: ts) = nesting (after.count .paren) ts := by
  cases t with
  | literal l =>
    cases h
    rfl
  | leftParen =>
    cases h
    rw [List.count_cons_self]
    rfl
  | rightParen =>
    rw [(surplus_close h).2]
    rfl
  | operator op =>
    cases op with
    | negation =>
      cases h
      simp [nesting]
    | binary op =>
      cases h
      simp [nesting, count_paren_release]

/-- What holds of a token holds of a row of them, from any stack on. -/
theorem surplus_run {stack after : List Waiting} {items : List Item} {ts : List Token}
    (h : run stack ts = .ok (items, after)) :
    surplusOfItems items + surplusOfWaiting after = surplusOfWaiting stack + surplus ts ∧
      nesting (stack.count .paren) ts = some (after.count .paren) := by
  -- on the tokens; the first one leaves the stack that the others start from
  induction ts generalizing stack items with
  | nil =>
    cases h
    exact ⟨by simp [surplusOfItems, surplus], rfl⟩
  | cons t ts ih =>
    obtain ⟨first, middle, more, hstep, hrun, rfl⟩ := run_cons_eq_ok.mp h
    obtain ⟨hsurplus, hnesting⟩ := ih hrun
    have hfirst := surplus_step hstep
    constructor
    · rw [surplusOfItems_append, surplus_cons]
      omega
    · rw [nesting_step hstep]
      exact hnesting

/-- At the end everything that waits is released, if no parenthesis is among it. -/
theorem surplus_finish {stack : List Waiting} {items : List Item}
    (h : finish stack = .ok items) :
    surplusOfItems items = surplusOfWaiting stack ∧ stack.count .paren = 0 := by
  induction stack generalizing items with
  | nil =>
    cases h
    exact ⟨rfl, rfl⟩
  | cons top stack ih =>
    cases top with
    | paren => cases h
    | operator op =>
      obtain ⟨more, hfinish, rfl⟩ := finish_operator_eq_ok.mp h
      obtain ⟨hsurplus, hcount⟩ := ih hfinish
      refine ⟨?_, by simpa using hcount⟩
      rw [surplusOfItems_cons, surplusOfWaiting_cons, hsurplus]
      rfl

/-- A row of tokens that can be converted is balanced, and leaves as many values as its items. -/
theorem surplus_convert {ts : List Token} {items : List Item} (h : convert ts = .ok items) :
    surplusOfItems items = surplus ts ∧ Balanced ts := by
  obtain ⟨first, stack, last, hrun, hfinish, rfl⟩ := convert_eq_ok.mp h
  obtain ⟨hsurplus, hnesting⟩ := surplus_run hrun
  obtain ⟨hlast, hcount⟩ := surplus_finish hfinish
  constructor
  · have hempty : surplusOfWaiting [] = 0 := rfl
    rw [surplusOfItems_append]
    omega
  · rw [hcount] at hnesting
    exact hnesting

end Yard

/-! ## Rows of operands -/

/-- A row of tokens that is a primary expression. -/
def IsPrimary (ts : List Token) : Prop := ∃ t, Derives .primary ts t

/-- Operands, each with the operator in front of it. -/
def tailTokens (rest : List (BinaryOperator × List Token)) : List Token :=
  rest.flatMap fun (op, operand) => .binary op :: operand

theorem tailTokens_cons (op : BinaryOperator) (operand : List Token)
    (rest : List (BinaryOperator × List Token)) :
    tailTokens ((op, operand) :: rest) = .binary op :: (operand ++ tailTokens rest) := rfl

theorem tailTokens_append (front back : List (BinaryOperator × List Token)) :
    tailTokens (front ++ back) = tailTokens front ++ tailTokens back :=
  List.flatMap_append

theorem Level.mem_operators {k : Level} {op : BinaryOperator} (h : op.precedence = k.rank) :
    op ∈ k.operators := by
  cases k <;> cases op <;> first | decide | exact absurd h (by decide)

/-- A row ends in a part without operators of a level, or has none of them at all. -/
theorem exists_last_operator (n : Nat) (rest : List (BinaryOperator × List Token)) :
    (∀ p ∈ rest, p.1.precedence ≠ n) ∨
      ∃ front op operand back, rest = front ++ (op, operand) :: back ∧ op.precedence = n ∧
        ∀ p ∈ back, p.1.precedence ≠ n := by
  induction rest with
  | nil => exact .inl fun p hp => absurd hp List.not_mem_nil
  | cons p rest ih =>
    rcases ih with hnone | ⟨front, op, operand, back, rfl, hop, hback⟩
    · by_cases hp : p.1.precedence = n
      · exact .inr ⟨[], p.1, p.2, rest, rfl, hp, hnone⟩
      · exact .inl (List.forall_mem_cons.mpr ⟨hp, hnone⟩)
    · exact .inr ⟨p :: front, op, operand, back, rfl, hop, hback⟩

/-- Operands are an expression of a level if the operators between them all bind as tightly as
the level, or tighter. -/
def HasRows (k : Level) : Prop :=
  ∀ (first : List Token) (rest : List (BinaryOperator × List Token)), IsPrimary first →
    (∀ p ∈ rest, IsPrimary p.2) → (∀ p ∈ rest, k.rank ≤ p.1.precedence) →
    ∃ t, Derives k (first ++ tailTokens rest) t

/-- Powers group from the right, so the first operand is split off. -/
theorem hasRows_power : HasRows .power := by
  intro first rest hfirst hrest hlevel
  induction rest generalizing first with
  | nil =>
    obtain ⟨t, ht⟩ := hfirst
    rw [tailTokens, List.flatMap_nil, List.append_nil]
    exact ⟨t, ht.loosen (by decide)⟩
  | cons p rest ih =>
    obtain ⟨op, operand⟩ := p
    have hop : op = .power := by
      have hle : 6 ≤ op.precedence := hlevel (op, operand) List.mem_cons_self
      cases op <;> first | rfl | exact absurd hle (by decide)
    subst hop
    obtain ⟨l, hl⟩ := hfirst
    obtain ⟨r, hr⟩ := ih operand (hrest _ List.mem_cons_self)
      (fun p hp => hrest p (List.mem_cons_of_mem _ hp))
      (fun p hp => hlevel p (List.mem_cons_of_mem _ hp))
    exact ⟨_, hl.right hr⟩

/-- All other operators group from the left, so the last operand of the level is split off. -/
theorem HasRows.of_tighter {k : Level} (hpower : k ≠ .power) (hprimary : k ≠ .primary)
    (h : HasRows k.tighter) : HasRows k := by
  intro first rest hfirst hrest hlevel
  have htighter := Level.rank_tighter hprimary
  -- on the number of operands, since the part in front of the last operator is shorter
  induction hlength : rest.length using Nat.strong_induction_on generalizing rest with
  | _ length ih =>
    rcases exists_last_operator k.rank rest with
      hnone | ⟨front, op, operand, back, rfl, hop, hback⟩
    · obtain ⟨t, ht⟩ := h first rest hfirst hrest fun p hp => by
        have hle := hlevel p hp
        have hne := hnone p hp
        omega
      exact ⟨t, ht.operand⟩
    · simp only [List.mem_append, List.mem_cons, or_imp, forall_and, forall_eq] at hrest hlevel
      have hshorter : front.length < length := by
        rw [← hlength, List.length_append, List.length_cons]
        omega
      obtain ⟨l, hl⟩ := ih front.length hshorter front hrest.1 hlevel.1 rfl
      obtain ⟨r, hr⟩ := h operand back hrest.2.1 hrest.2.2 fun p hp => by
        have hle := hlevel.2.2 p hp
        have hne := hback p hp
        omega
      rw [tailTokens_append, tailTokens_cons, ← List.append_assoc]
      exact ⟨_, hl.left hpower (Level.mem_operators hop) hr⟩

/-- Operands with operators between them, whatever these are, are an infix expression. -/
theorem exists_derives_row {first : List Token} {rest : List (BinaryOperator × List Token)}
    (hfirst : IsPrimary first) (hrest : ∀ p ∈ rest, IsPrimary p.2) :
    ∃ t, Derives .disjunction (first ++ tailTokens rest) t := by
  have hproduct : HasRows .product := hasRows_power.of_tighter (by decide) (by decide)
  have hsum : HasRows .sum := hproduct.of_tighter (by decide) (by decide)
  have hcomparison : HasRows .comparison := hsum.of_tighter (by decide) (by decide)
  have hconjunction : HasRows .conjunction := hcomparison.of_tighter (by decide) (by decide)
  have hdisjunction : HasRows .disjunction := hconjunction.of_tighter (by decide) (by decide)
  refine hdisjunction first rest hfirst hrest fun p _ => ?_
  cases p.1 <;> decide

/-! ## What follows an operand -/

/-- What follows an operand of an infix expression in `depth` open parentheses: in each of them,
further operands with operators in front of them, and the closing parenthesis. -/
inductive Completes : Nat → List Token → Prop where
  /-- Outside all parentheses nothing else follows -/
  | last {rest : List (BinaryOperator × List Token)} (hrest : ∀ p ∈ rest, IsPrimary p.2) :
      Completes 0 (tailTokens rest)
  /-- Behind a closing parenthesis an operand has ended again -/
  | close {depth : Nat} {rest : List (BinaryOperator × List Token)} {ts : List Token}
      (hrest : ∀ p ∈ rest, IsPrimary p.2) (hmore : Completes depth ts) :
      Completes (depth + 1) (tailTokens rest ++ .rightParen :: ts)

/-- An operand, and what follows it. -/
def Begins (depth : Nat) (ts : List Token) : Prop :=
  ∃ operand more, IsPrimary operand ∧ Completes depth more ∧ ts = operand ++ more

theorem begins_literal {depth : Nat} {ts : List Token} (l : Literal) (h : Completes depth ts) :
    Begins depth (.literal l :: ts) :=
  ⟨[.literal l], ts, ⟨_, .literal l⟩, h, rfl⟩

theorem begins_negation {depth : Nat} {ts : List Token} (h : Begins depth ts) :
    Begins depth (.operator .negation :: ts) := by
  obtain ⟨operand, more, ⟨t, ht⟩, hmore, rfl⟩ := h
  exact ⟨_ :: operand, more, ⟨_, ht.negation⟩, hmore, rfl⟩

/-- A parenthesis that opens makes one operand of all that comes before its partner. -/
theorem begins_paren {depth : Nat} {ts : List Token} (h : Begins (depth + 1) ts) :
    Begins depth (.leftParen :: ts) := by
  obtain ⟨operand, more, hoperand, hmore, rfl⟩ := h
  cases hmore with
  | close hrest hmore =>
    obtain ⟨t, ht⟩ := exists_derives_row hoperand hrest
    refine ⟨_, _, ⟨t, ht.paren⟩, hmore, ?_⟩
    simp

theorem completes_binary {depth : Nat} {ts : List Token} (op : BinaryOperator)
    (h : Begins depth ts) : Completes depth (.binary op :: ts) := by
  obtain ⟨operand, more, hoperand, hmore, rfl⟩ := h
  cases hmore with
  | last hrest =>
    rw [← tailTokens_cons]
    exact .last (List.forall_mem_cons.mpr ⟨hoperand, hrest⟩)
  | close hrest hmore =>
    rw [← List.append_assoc, ← List.cons_append, ← tailTokens_cons]
    exact .close (List.forall_mem_cons.mpr ⟨hoperand, hrest⟩) hmore

/-! ## Tokens that leave one value -/

/-- How many values the tokens behind a token should leave: one, unless an operand has ended. -/
def Token.due (t : Token) : Int := if t.endsOperand then 0 else 1

theorem surplus_add_due (t : Token) : t.surplus + t.due = if t.startsOperand then 1 else 0 := by
  cases t with
  | operator op => cases op <;> rfl
  | _ => rfl

/-- A token leaves no more than what is due, unless it begins a second operand. -/
theorem surplus_add_due_le {previous t : Token} (h : previous.Apart t) :
    t.surplus + t.due ≤ previous.due := by
  rw [surplus_add_due, Token.due]
  by_cases hends : previous.endsOperand = true
  · have hstarts : ¬t.startsOperand = true := fun hstarts => h ⟨hends, hstarts⟩
    rw [if_pos hends, if_neg hstarts]
  · rw [if_neg hends]
    split <;> decide

/-- Where no two operands are side by side, the tokens behind one leave no more than what is due. -/
theorem surplus_le_due {previous : Token} {ts : List Token}
    (hapart : (previous :: ts).IsChain Token.Apart) : surplus ts ≤ previous.due := by
  induction ts generalizing previous with
  | nil =>
    unfold Token.due
    split <;> decide
  | cons t ts ih =>
    obtain ⟨hfirst, hrest⟩ := List.isChain_cons_cons.mp hapart
    have hle := ih hrest
    have hstep := surplus_add_due_le hfirst
    rw [surplus_cons]
    omega

/-- Where no two operands are side by side and the parentheses are balanced, tokens that leave as
many values as are due go on with an infix expression. -/
theorem begins_or_completes {previous : Token} {depth : Nat} {ts : List Token}
    (hapart : (previous :: ts).IsChain Token.Apart) (hnesting : nesting depth ts = some 0)
    (hsurplus : surplus ts = previous.due) :
    if previous.endsOperand then Completes depth ts else Begins depth ts := by
  -- on the tokens; what is due cannot be made up for, so each token leaves exactly that
  induction ts generalizing previous depth with
  | nil =>
    cases hnesting
    have hends : previous.endsOperand = true := by
      by_contra hends
      rw [Token.due, if_neg hends] at hsurplus
      exact absurd hsurplus (by decide)
    rw [if_pos hends]
    have hnone : ∀ p ∈ ([] : List (BinaryOperator × List Token)), IsPrimary p.2 := nofun
    exact .last hnone
  | cons t ts ih =>
    obtain ⟨hfirst, hrest⟩ := List.isChain_cons_cons.mp hapart
    have hle := surplus_le_due hrest
    have hstep := surplus_add_due_le hfirst
    rw [surplus_cons] at hsurplus
    have htoken : t.surplus + t.due = previous.due := by omega
    rw [surplus_add_due, Token.due] at htoken
    have hmore : ∀ {depth}, nesting depth ts = some 0 →
        if t.endsOperand then Completes depth ts else Begins depth ts :=
      fun hnesting => ih hrest hnesting (by omega)
    by_cases hends : previous.endsOperand = true
    · -- an operand has ended, so the token does not start one
      rw [if_pos hends] at htoken ⊢
      have hstarts : ¬t.startsOperand = true := by
        intro hstarts
        rw [if_pos hstarts] at htoken
        exact absurd htoken (by decide)
      cases t with
      | literal l => exact absurd rfl hstarts
      | leftParen => exact absurd rfl hstarts
      | rightParen =>
        cases depth with
        | zero => cases hnesting
        | succ depth =>
          have hnone : ∀ p ∈ ([] : List (BinaryOperator × List Token)), IsPrimary p.2 := nofun
          exact .close hnone (hmore hnesting)
      | operator op =>
        cases op with
        | negation => exact absurd rfl hstarts
        | binary op => exact completes_binary op (hmore hnesting)
    · -- an operand is due, so the token starts one
      rw [if_neg hends] at htoken ⊢
      have hstarts : t.startsOperand = true := by
        by_contra hstarts
        rw [if_neg hstarts] at htoken
        exact absurd htoken (by decide)
      cases t with
      | literal l => exact begins_literal l (hmore hnesting)
      | leftParen => exact begins_paren (hmore hnesting)
      | rightParen => cases hstarts
      | operator op =>
        cases op with
        | negation => exact begins_negation (hmore hnesting)
        | binary op => cases hstarts

/-- Balanced tokens that leave one value are an infix expression, unless operands are side by
side. -/
theorem exists_derives_of_apart {ts : List Token} (hapart : ts.IsChain Token.Apart)
    (hbalanced : Balanced ts) (hsurplus : surplus ts = 1) : ∃ t, Derives .disjunction ts t := by
  -- an operand is due at the start, as it is behind an opening parenthesis
  have hstart : (Token.leftParen :: ts).IsChain Token.Apart := by
    refine List.isChain_cons.mpr ⟨fun t _ => ?_, hapart⟩
    rintro ⟨hends, -⟩
    cases hends
  have hbegins : Begins 0 ts := begins_or_completes hstart hbalanced hsurplus
  obtain ⟨operand, more, hoperand, hmore, rfl⟩ := hbegins
  cases hmore with
  | last hrest => exact exists_derives_row hoperand hrest

/-! ## Infix expressions -/

/-- A row of tokens begins where an operand begins, ends where one ends, and has no operands side
by side. -/
structure WellPlaced (ts : List Token) : Prop where
  starts : ∃ first more, ts = first :: more ∧ first.startsOperand = true
  ends : ∃ front last, ts = front ++ [last] ∧ last.endsOperand = true
  apart : ts.IsChain Token.Apart

theorem apart_of_not_ends {a : Token} (h : a.endsOperand = false) (b : Token) : a.Apart b := by
  rintro ⟨hends, -⟩
  rw [h] at hends
  cases hends

theorem apart_of_not_starts {b : Token} (h : b.startsOperand = false) (a : Token) : a.Apart b := by
  rintro ⟨-, hstarts⟩
  rw [h] at hstarts
  cases hstarts

theorem WellPlaced.negation {ts : List Token} (h : WellPlaced ts) :
    WellPlaced (.operator .negation :: ts) := by
  obtain ⟨first, more, rfl, -⟩ := h.starts
  obtain ⟨front, last, hlast, hends⟩ := h.ends
  exact ⟨⟨_, _, rfl, rfl⟩, ⟨_ :: front, last, by rw [hlast]; rfl, hends⟩,
    .cons_cons (apart_of_not_ends rfl first) h.apart⟩

theorem WellPlaced.binary {ls rs : List Token} (op : BinaryOperator) (hl : WellPlaced ls)
    (hr : WellPlaced rs) : WellPlaced (ls ++ .binary op :: rs) := by
  obtain ⟨first, more, rfl, hstarts⟩ := hl.starts
  obtain ⟨front, last, hlast, hends⟩ := hr.ends
  refine ⟨⟨first, _, rfl, hstarts⟩,
    ⟨first :: more ++ .binary op :: front, last, by rw [hlast]; simp, hends⟩, ?_⟩
  rw [List.isChain_append]
  refine ⟨hl.apart, List.isChain_cons.mpr ⟨fun b _ => apart_of_not_ends rfl b, hr.apart⟩, ?_⟩
  -- no operand starts with the operator that stands where the two parts meet
  rintro a - b hb
  cases hb
  exact apart_of_not_starts rfl a

theorem WellPlaced.paren {ts : List Token} (h : WellPlaced ts) :
    WellPlaced (.leftParen :: ts ++ [.rightParen]) := by
  refine ⟨⟨_, _, rfl, rfl⟩, ⟨_, _, rfl, rfl⟩, ?_⟩
  rw [List.cons_append, List.isChain_cons, List.isChain_append]
  refine ⟨fun b _ => apart_of_not_ends rfl b, h.apart, List.isChain_singleton _, ?_⟩
  rintro a - b hb
  cases hb
  exact apart_of_not_starts rfl a

theorem Derives.wellPlaced {k : Level} {ts : List Token} {t : Tree} (h : Derives k ts t) :
    WellPlaced ts := by
  induction h with
  | literal l => exact ⟨⟨_, _, rfl, rfl⟩, ⟨[], _, rfl, rfl⟩, List.isChain_singleton _⟩
  | paren _ ih => exact ih.paren
  | negation _ ih => exact ih.negation
  | operand _ ih => exact ih
  | left _ _ _ _ ihl ihr => exact ihl.binary _ ihr
  | right _ _ ihl ihr => exact ihl.binary _ ihr

/-! ## Accepted texts -/

/-- A text that can be converted can be cut into tokens. -/
theorem exists_tokens_of_toPostfix {text : String} {items : List Item}
    (h : toPostfix text = .ok items) :
    ∃ ts, tokenize text = .ok ts ∧ Yard.convert ts = .ok items := by
  have hconvert : ∀ {ts}, tokenize text = .ok ts → Yard.convert ts = .ok items := fun hts => by
    rw [← toPostfix_of_tokenize hts, h]
  cases hts : tokenize text with
  | ok ts => exact ⟨ts, rfl, hconvert hts⟩
  | error e =>
    -- a lexical error is reported by the conversion, if not an error further left
    exfalso
    rw [tokenize] at hts
    split at hts
    · cases hts
    · next ts e' hfailure =>
      rw [toPostfix, hfailure] at h
      cases hrun : Yard.run [] ts with
      | error failure => simp only [bind, Except.bind, hrun] at h; cases h
      | ok out => simp only [bind, Except.bind, hrun] at h; cases h

/-- A text that has a truth value can be cut into tokens, its parentheses are balanced, and its
items list one tree.  It is an infix expression exactly if nowhere an operand directly follows
another one. -/
theorem derives_iff_of_evaluate {text : String} {b : Bool} (h : evaluate text = .ok b) :
    ∃ ts, tokenize text = .ok ts ∧ Balanced ts ∧
      (∃ t : Tree, toPostfix text = .ok t.postorder ∧
        ∀ u : Tree, toPostfix text = .ok u.postorder → u = t) ∧
      ((∃ t, Derives .disjunction ts t) ↔ ts.IsChain Token.Apart) := by
  rw [evaluate] at h
  cases hitems : toPostfix text with
  | error e => rw [hitems] at h; cases h
  | ok items =>
    rw [hitems] at h
    obtain ⟨t, rfl⟩ := exists_postorder_of_evaluatePostfix h
    obtain ⟨ts, hts, hconvert⟩ := exists_tokens_of_toPostfix hitems
    obtain ⟨hsurplus, hbalanced⟩ := Yard.surplus_convert hconvert
    rw [surplusOfItems_postorder] at hsurplus
    refine ⟨ts, hts, hbalanced, ⟨t, rfl, fun u hu => ?_⟩, ?_, fun hapart => ?_⟩
    · exact (postorder_injective (Except.ok.inj hu)).symm
    · rintro ⟨u, hu⟩
      exact hu.wellPlaced.apart
    · exact exists_derives_of_apart hapart hbalanced hsurplus.symm

/-- Negations and parentheses, each at the front of an operand. -/
theorem derives_iff_of_evaluate_paren :
    evaluate "!('a' == 'b')" = .ok true ∧
      ∃ ts t, tokenize "!('a' == 'b')" = .ok ts ∧ Derives .disjunction ts t := by
  have htokens : tokenize "!('a' == 'b')" = .ok [.operator .negation, .leftParen, .string "a",
      .binary .equal, .string "b", .rightParen] := tokenize_of_lexemes (by rfl)
  have hvalue : (truth (truth ("a" == "b") == 0) == 1) = true := by decide +kernel
  have heval : evaluate "!('a' == 'b')" = .ok true := by
    rw [evaluate, toPostfix_of_tokenize htokens]
    exact congrArg Except.ok hvalue
  obtain ⟨ts, hts, -, -, hiff⟩ := derives_iff_of_evaluate heval
  obtain rfl := Except.ok.inj (htokens.symm.trans hts)
  obtain ⟨t, ht⟩ := hiff.mpr (by simp [Token.Apart, Token.endsOperand, Token.startsOperand])
  exact ⟨heval, _, t, hts, ht⟩

/-- An operator behind its operands, one in front of them, and parentheses around nothing. -/
theorem exists_evaluate_not_derives :
    (evaluate "1 1 ==" = .ok true ∧
      ¬∃ ts t, tokenize "1 1 ==" = .ok ts ∧ Derives .disjunction ts t) ∧
    (evaluate "== 1 1" = .ok true ∧
      ¬∃ ts t, tokenize "== 1 1" = .ok ts ∧ Derives .disjunction ts t) ∧
    (evaluate "() 1" = .ok true ∧
      ¬∃ ts t, tokenize "() 1" = .ok ts ∧ Derives .disjunction ts t) := by
  let one : Token := .number (Decimal.ofFixed ['1'] [])
  have hevaluate : ∀ {text ts} {b : Bool}, tokenize text = .ok ts →
      (Yard.convert ts >>= evaluatePostfix) = .ok b → evaluate text = .ok b := fun hts hb => by
    rw [evaluate, toPostfix_of_tokenize hts]
    exact hb
  have hnot : ∀ {text ts}, tokenize text = .ok ts → ¬ts.IsChain Token.Apart →
      ¬∃ us t, tokenize text = .ok us ∧ Derives .disjunction us t := fun hts hapart => by
    rintro ⟨us, t, hus, ht⟩
    obtain rfl := Except.ok.inj (hts.symm.trans hus)
    exact hapart ht.wellPlaced.apart
  have hlast : tokenize "1 1 ==" = .ok [one, one, .binary .equal] :=
    tokenize_of_lexemes (by rfl)
  have hfirst : tokenize "== 1 1" = .ok [.binary .equal, one, one] :=
    tokenize_of_lexemes (by rfl)
  have hparens : tokenize "() 1" = .ok [.leftParen, .rightParen, one] :=
    tokenize_of_lexemes (by rfl)
  have hequal : (truth (Decimal.ofFixed ['1'] [] == Decimal.ofFixed ['1'] []) == 1) = true := by
    decide +kernel
  have hone : (Decimal.ofFixed ['1'] [] == 1) = true := by decide +kernel
  refine ⟨⟨hevaluate hlast (congrArg Except.ok hequal), hnot hlast ?_⟩,
    ⟨hevaluate hfirst (congrArg Except.ok hequal), hnot hfirst ?_⟩,
    ⟨hevaluate hparens (congrArg Except.ok hone), hnot hparens ?_⟩⟩
  all_goals simp [one, Token.Apart, Token.endsOperand, Token.startsOperand]

end DocQuery.Expression
