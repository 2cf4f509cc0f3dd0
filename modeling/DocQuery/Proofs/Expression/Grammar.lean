import Mathlib
import DocQuery.Expression.Tree

/-!
# The Grammar Behind the Postfix Order

Infix expressions are derived level by level, from disjunctions, which bind loosest, to
primary expressions.  A derivation fixes a tree; the conversion to postfix order lists that
tree, however deep the parentheses are nested and however many of them are redundant.

The conversion never sees a tree.  What ties it to one is an invariant on the operator stack:
tokens that derive a tree leave operators behind which, released from the top downwards, finish
the listing of exactly that tree, and nothing that waited before is touched (`Yard.Lists`).

## Main definitions

- `Level`, `Derives`: the grammar
- `Yard.Guards`: a stack that no operator of a level disturbs
- `Yard.Lists`: what reading the tokens of a tree leaves behind

## Main statements

- `Yard.lists_of_derives`: the invariant holds of every derivation, on every stack that guards it
- `toPostfix_of_derives`: a text whose tokens derive a tree is converted to its listing
-/

namespace DocQuery.Expression

/-! ## The grammar -/

/-- The levels of the grammar, from the loosest to the tightest. -/
inductive Level where
  /-- Expressions joined by `||` -/
  | disjunction
  /-- Expressions joined by `&&` -/
  | conjunction
  /-- Comparisons and matches -/
  | comparison
  /-- Sums and differences -/
  | sum
  /-- Products and quotients -/
  | product
  /-- Powers -/
  | power
  /-- Operands, parentheses and negations -/
  | primary
deriving DecidableEq

namespace Level

/-- The operators that stand between the operands of a level. -/
def operators : Level → List BinaryOperator
  | disjunction => [.or]
  | conjunction => [.and]
  | comparison => [.equal, .notEqual, .less, .greater, .lessEqual, .greaterEqual, .matching]
  | sum => [.add, .subtract]
  | product => [.multiply, .divide]
  | power => [.power]
  | primary => []

/-- The level of the operands. -/
def tighter : Level → Level
  | disjunction => conjunction
  | conjunction => comparison
  | comparison => sum
  | sum => product
  | product => power
  | power | primary => primary

/-- The number of a level, counted from the loosest. -/
def rank : Level → Nat
  | disjunction => 1
  | conjunction => 2
  | comparison => 3
  | sum => 4
  | product => 5
  | power => 6
  | primary => 7

/-- An operator binds as tightly as its level says. -/
theorem precedence_eq_rank {k : Level} {op : BinaryOperator} (h : op ∈ k.operators) :
    op.precedence = k.rank := by
  cases k <;> simp only [operators, List.mem_cons, List.not_mem_nil, or_false] at h
  all_goals
    rcases h with rfl | rfl | rfl | rfl | rfl | rfl | rfl <;> rfl

/-- The operands of a level bind tighter than its operators. -/
theorem rank_tighter {k : Level} (h : k ≠ primary) : k.tighter.rank = k.rank + 1 := by
  cases k <;> first | rfl | exact absurd rfl h

theorem rank_le_rank_tighter (k : Level) : k.rank ≤ k.tighter.rank := by
  cases k <;> decide

theorem rank_injective {j k : Level} (h : j.rank = k.rank) : j = k := by
  cases j <;> cases k <;> first | rfl | exact absurd h (by decide)

theorem rank_le_primary (k : Level) : k.rank ≤ primary.rank := by
  cases k <;> decide

/-- Only powers group from the right, and only they make up their level. -/
theorem power_notMem_operators {k : Level} (h : k ≠ power) : .power ∉ k.operators := by
  cases k <;> first | decide | exact absurd rfl h

end Level

/-- The derivations of the infix grammar: at which level a row of tokens can be derived, and
the tree that the derivation gives it. -/
inductive Derives : Level → List Token → Tree → Prop where
  /-- An operand stands for itself. -/
  | literal (l : Literal) : Derives .primary [.literal l] (.literal l)
  /-- Parentheses make an expression of any level primary, and leave no trace in its tree. -/
  | paren {ts : List Token} {t : Tree} :
      Derives .disjunction ts t → Derives .primary (.leftParen :: ts ++ [.rightParen]) t
  /-- Negation applies to a primary expression. -/
  | negation {ts : List Token} {t : Tree} :
      Derives .primary ts t → Derives .primary (.operator .negation :: ts) (.negation t)
  /-- An expression of the next level is one of this level. -/
  | operand {k : Level} {ts : List Token} {t : Tree} :
      Derives k.tighter ts t → Derives k ts t
  /-- Operators group from the left, except for powers. -/
  | left {k : Level} {op : BinaryOperator} {ls rs : List Token} {l r : Tree} :
      k ≠ .power → op ∈ k.operators → Derives k ls l → Derives k.tighter rs r →
      Derives k (ls ++ .binary op :: rs) (.binary op l r)
  /-- Powers group from the right. -/
  | right {ls rs : List Token} {l r : Tree} :
      Derives .primary ls l → Derives .power rs r →
      Derives .power (ls ++ .binary .power :: rs) (.binary .power l r)

/-- What is derived at a level is derived at every looser one. -/
theorem Derives.loosen {j k : Level} {ts : List Token} {t : Tree} (h : Derives k ts t)
    (hjk : j.rank ≤ k.rank) : Derives j ts t := by
  -- one level at a time, until the levels agree
  by_cases hj : j.rank = k.rank
  · rwa [Level.rank_injective hj]
  · have hprimary : j ≠ .primary := by
      rintro rfl
      have := k.rank_le_primary
      omega
    have htighter : j.tighter.rank ≤ k.rank := by rw [Level.rank_tighter hprimary]; omega
    exact .operand (h.loosen htighter)
termination_by k.rank - j.rank
decreasing_by rw [Level.rank_tighter hprimary]; omega

namespace Yard

/-! ## Releasing and closing -/

/-- Operators as they wait on the stack. -/
def waiting (ops : List Operator) : List Waiting := ops.map .operator

/-- Operators as they stand in the output. -/
def released (ops : List Operator) : List Item := ops.map .operator

/-- Operators on top of the stack that yield are released from the top downwards. -/
theorem release_waiting {op : Operator} {ops : List Operator} (stack : List Waiting)
    (h : ∀ o ∈ ops, yields o op = true) :
    release op (waiting ops ++ stack) =
      (released ops ++ (release op stack).1, (release op stack).2) := by
  induction ops with
  | nil => rfl
  | cons o ops ih =>
    have ho : yields o op = true := h o List.mem_cons_self
    have htail := ih fun p hp => h p (List.mem_cons_of_mem o hp)
    simp only [waiting, released, List.map_cons, List.cons_append] at htail ⊢
    simp only [release, ho, if_true, htail]

/-- A closing parenthesis releases what waits inside its partner. -/
theorem close_waiting (ops : List Operator) (stack : List Waiting) :
    close (waiting ops ++ .paren :: stack) = .ok (released ops, stack) := by
  induction ops with
  | nil => rfl
  | cons o ops ih =>
    simp only [waiting, released, List.map_cons, List.cons_append] at ih ⊢
    simp only [close, ih]
    rfl

theorem finish_waiting (ops : List Operator) : finish (waiting ops) = .ok (released ops) := by
  induction ops with
  | nil => rfl
  | cons o ops ih =>
    simp only [waiting, released, List.map_cons] at ih ⊢
    simp only [finish, ih]
    rfl

/-! ## Success

Where one of the steps of a conversion succeeds, so do the steps that it is made of. -/

theorem close_operator_eq_ok {op : Operator} {stack after : List Waiting} {items : List Item} :
    close (.operator op :: stack) = .ok (items, after) ↔
      ∃ more, close stack = .ok (more, after) ∧ items = .operator op :: more := by
  rw [close]
  cases close stack with
  | error e => simp [bind, Except.bind]
  | ok out =>
    obtain ⟨more, rest⟩ := out
    simp [bind, Except.bind, pure, Except.pure, and_comm, eq_comm]

theorem run_cons_eq_ok {stack after : List Waiting} {items : List Item} {t : Token}
    {ts : List Token} :
    run stack (t :: ts) = .ok (items, after) ↔
      ∃ first middle more, step stack t = .ok (first, middle) ∧
        run middle ts = .ok (more, after) ∧ items = first ++ more := by
  rw [run]
  cases step stack t with
  | error e => simp [bind, Except.bind]
  | ok out =>
    obtain ⟨first, middle⟩ := out
    cases hrun : run middle ts with
    | error e => simp [bind, Except.bind, hrun]
    | ok out =>
      obtain ⟨more, last⟩ := out
      simp [bind, Except.bind, pure, Except.pure, hrun, and_comm, eq_comm]

theorem finish_operator_eq_ok {op : Operator} {stack : List Waiting} {items : List Item} :
    finish (.operator op :: stack) = .ok items ↔
      ∃ more, finish stack = .ok more ∧ items = .operator op :: more := by
  rw [finish]
  cases finish stack with
  | error e => simp [bind, Except.bind]
  | ok more => simp [bind, Except.bind, pure, Except.pure, eq_comm]

theorem convert_eq_ok {ts : List Token} {items : List Item} :
    convert ts = .ok items ↔
      ∃ first stack last, run [] ts = .ok (first, stack) ∧ finish stack = .ok last ∧
        items = first ++ last := by
  rw [convert]
  cases run [] ts with
  | error e => simp [bind, Except.bind]
  | ok out =>
    obtain ⟨first, stack⟩ := out
    cases hfinish : finish stack with
    | error e => simp [bind, Except.bind, hfinish]
    | ok last => simp [bind, Except.bind, pure, Except.pure, hfinish, eq_comm]

/-! ## Guards -/

/-- No operator that binds with strength `n` or tighter releases anything of `stack`. -/
def Guards (n : Nat) (stack : List Waiting) : Prop :=
  ∀ op : BinaryOperator, n ≤ op.precedence → release (.binary op) stack = ([], stack)

theorem guards_nil (n : Nat) : Guards n [] := fun _ _ => rfl

theorem guards_paren (n : Nat) (stack : List Waiting) : Guards n (.paren :: stack) :=
  fun _ _ => rfl

/-- No operator binds as tightly as a primary expression, so every stack guards one. -/
theorem guards_primary (stack : List Waiting) : Guards Level.primary.rank stack := by
  intro op h
  have hlt : op.precedence < 7 := Operator.precedence_binary_lt op
  exact absurd h (Nat.not_le_of_lt hlt)

theorem Guards.mono {m n : Nat} {stack : List Waiting} (h : Guards m stack) (hmn : m ≤ n) :
    Guards n stack := fun op hop => h op (Nat.le_trans hmn hop)

/-- An operator on top of the stack guards those that bind tighter. -/
theorem guards_operator {op : BinaryOperator} {n : Nat} (h : op.precedence < n)
    (stack : List Waiting) : Guards n (.operator (.binary op) :: stack) := by
  intro next hnext
  have hlt : op.precedence < next.precedence := Nat.lt_of_lt_of_le h hnext
  -- the next operator binds tighter, so the one on the stack yields in neither way of grouping
  have hyields : yields (.binary op) (.binary next) = false := by
    unfold yields
    split
    · exact decide_eq_false (Nat.not_lt_of_le (Nat.le_of_lt hlt))
    · exact decide_eq_false (Nat.not_le_of_lt hlt)
  simp only [release, hyields, Bool.false_eq_true, if_false]

/-- A power on top of the stack also guards another power, which groups from the right. -/
theorem guards_power (stack : List Waiting) :
    Guards Level.power.rank (.operator (.binary .power) :: stack) := by
  intro next hnext
  have hyields : yields (.binary .power) (.binary next) = false := by
    cases next <;> first | rfl | exact absurd hnext (by decide)
  simp only [release, hyields, Bool.false_eq_true, if_false]

/-! ## The invariant -/

/-- What reading `ts` on top of `stack` leaves behind: items, and operators waiting on top of
the untouched stack that bind with strength `n` or tighter.  Released, the operators complete
the items to the listing of `t`. -/
def Lists (n : Nat) (stack : List Waiting) (ts : List Token) (t : Tree) : Prop :=
  ∃ (items : List Item) (ops : List Operator),
    run stack ts = .ok (items, waiting ops ++ stack) ∧
    items ++ released ops = t.postorder ∧
    ∀ o ∈ ops, n ≤ o.precedence

theorem Lists.mono {m n : Nat} {stack : List Waiting} {ts : List Token} {t : Tree}
    (h : Lists n stack ts t) (hmn : m ≤ n) : Lists m stack ts t := by
  obtain ⟨items, ops, hrun, hlist, hops⟩ := h
  exact ⟨items, ops, hrun, hlist, fun o ho => Nat.le_trans hmn (hops o ho)⟩

theorem run_cons_of_ok {stack middle last : List Waiting} {items more : List Item} {t : Token}
    {ts : List Token} (hstep : step stack t = .ok (items, middle))
    (hrun : run middle ts = .ok (more, last)) :
    run stack (t :: ts) = .ok (items ++ more, last) := by
  simp only [run, hstep, bind, Except.bind, hrun, pure, Except.pure]

theorem run_append_of_ok {stack middle last : List Waiting} {items more : List Item}
    {ts us : List Token} (hfirst : run stack ts = .ok (items, middle))
    (hsecond : run middle us = .ok (more, last)) :
    run stack (ts ++ us) = .ok (items ++ more, last) := by
  simp only [run_append, hfirst, bind, Except.bind, hsecond, pure, Except.pure]

theorem lists_literal (n : Nat) (stack : List Waiting) (l : Literal) :
    Lists n stack [.literal l] (.literal l) := by
  refine ⟨[.literal l], [], ?_, rfl, fun o ho => absurd ho List.not_mem_nil⟩
  rfl

/-- Inside parentheses the stack counts as empty, and at the closing one everything that waits
inside is released. -/
theorem lists_paren {m : Nat} {stack : List Waiting} {ts : List Token} {t : Tree} (n : Nat)
    (h : Lists m (.paren :: stack) ts t) :
    Lists n stack (.leftParen :: ts ++ [.rightParen]) t := by
  obtain ⟨items, ops, hrun, hlist, -⟩ := h
  -- nothing is left waiting: the closing parenthesis has released it all
  refine ⟨items ++ released ops, [], ?_, ?_, fun o ho => absurd ho List.not_mem_nil⟩
  · have hclose : run (waiting ops ++ .paren :: stack) [.rightParen] =
        .ok (released ops ++ [], stack) :=
      run_cons_of_ok (close_waiting ops stack) rfl
    rw [List.append_nil] at hclose
    have hopen : step stack .leftParen = .ok ([], .paren :: stack) := rfl
    have hall := run_cons_of_ok hopen (run_append_of_ok hrun hclose)
    rwa [List.nil_append] at hall
  · simpa [released] using hlist

/-- Negation waits below everything that its operand leaves behind. -/
theorem lists_negation {stack : List Waiting} {ts : List Token} {t : Tree}
    (h : Lists Level.primary.rank (.operator .negation :: stack) ts t) :
    Lists Level.primary.rank stack (.operator .negation :: ts) (.negation t) := by
  obtain ⟨items, ops, hrun, hlist, hops⟩ := h
  -- the negation is pushed first, so it is released last
  refine ⟨items, ops ++ [.negation], ?_, ?_, ?_⟩
  · have hstack : waiting (ops ++ [.negation]) ++ stack =
        waiting ops ++ .operator .negation :: stack := by simp [waiting]
    have hstep : step stack (.operator .negation) = .ok ([], .operator .negation :: stack) := rfl
    rw [hstack]
    exact run_cons_of_ok hstep hrun
  · calc items ++ released (ops ++ [.negation])
        = items ++ released ops ++ [.operator .negation] := by simp [released]
      _ = t.postorder ++ [.operator .negation] := by rw [hlist]
  · intro o ho
    rcases List.mem_append.mp ho with ho | ho
    · exact hops o ho
    · rw [List.mem_singleton.mp ho]
      exact Nat.le_refl 7

/-- An operator between two operands: it releases all of the left one, is guarded by the stack,
and waits below all of the right one. -/
theorem lists_binary (op : BinaryOperator) {m n : Nat} {stack : List Waiting}
    {ls rs : List Token} {l r : Tree}
    (hguard : Guards op.precedence stack)
    (hyields : ∀ o : Operator, m ≤ o.precedence → yields o (.binary op) = true)
    (hl : Lists m stack ls l)
    (hr : Lists n (.operator (.binary op) :: stack) rs r)
    (hn : op.precedence ≤ n) :
    Lists op.precedence stack (ls ++ .binary op :: rs) (.binary op l r) := by
  obtain ⟨itemsL, opsL, hrunL, hlistL, hopsL⟩ := hl
  obtain ⟨itemsR, opsR, hrunR, hlistR, hopsR⟩ := hr
  -- the operator finds all that the left operand left behind, and below it the guarded stack
  have hrelease : release (.binary op) (waiting opsL ++ stack) = (released opsL, stack) := by
    rw [release_waiting stack fun o ho => hyields o (hopsL o ho),
      hguard op (Nat.le_refl op.precedence), List.append_nil]
  -- it stays on the stack below what the right operand leaves behind
  refine ⟨itemsL ++ (released opsL ++ itemsR), opsR ++ [.binary op], ?_, ?_, ?_⟩
  · have hstep : step (waiting opsL ++ stack) (.binary op) =
        .ok (released opsL, .operator (.binary op) :: stack) := by
      simp only [step, hrelease]
    have hstack : waiting (opsR ++ [.binary op]) ++ stack =
        waiting opsR ++ .operator (.binary op) :: stack := by simp [waiting]
    rw [hstack]
    exact run_append_of_ok hrunL (run_cons_of_ok hstep hrunR)
  · calc itemsL ++ (released opsL ++ itemsR) ++ released (opsR ++ [.binary op])
        = itemsL ++ released opsL ++ (itemsR ++ released opsR) ++ [.operator (.binary op)] := by
          simp [released]
      _ = l.postorder ++ r.postorder ++ [.operator (.binary op)] := by rw [hlistL, hlistR]
  · intro o ho
    rcases List.mem_append.mp ho with ho | ho
    · exact Nat.le_trans hn (hopsR o ho)
    · rw [List.mem_singleton.mp ho]
      exact Nat.le_refl op.precedence

/-- An operator that groups from the left releases everything that binds as tightly. -/
theorem yields_of_le {op : BinaryOperator} (hop : op ≠ .power) {o : Operator}
    (h : op.precedence ≤ o.precedence) : yields o (.binary op) = true := by
  have hassoc : Operator.isRightAssociative (.binary op) = false := by
    simp only [Operator.isRightAssociative, beq_eq_false_iff_ne]
    exact hop
  simp only [yields, hassoc, Bool.false_eq_true, if_false, decide_eq_true_eq]
  exact h

/-- A power releases negations, which bind tighter. -/
theorem yields_power {o : Operator} (h : Level.primary.rank ≤ o.precedence) :
    yields o (.binary .power) = true := by
  have hassoc : Operator.isRightAssociative (.binary .power) = true := rfl
  simp only [yields, hassoc, if_true, decide_eq_true_eq]
  exact Nat.lt_of_lt_of_le (by decide) h

/-- Reading the tokens of a derivation lists its tree, on every stack that guards its level. -/
theorem lists_of_derives {k : Level} {ts : List Token} {t : Tree} (h : Derives k ts t) :
    ∀ stack : List Waiting, Guards k.rank stack → Lists k.rank stack ts t := by
  -- on the derivation; the stack is general, since operands are read on top of operators
  induction h with
  | literal l => exact fun stack _ => lists_literal _ stack l
  | paren _ ih => exact fun stack _ => lists_paren _ (ih _ (guards_paren _ stack))
  | negation _ ih => exact fun stack _ => lists_negation (ih _ (guards_primary _))
  | @operand k ts t _ ih =>
    intro stack hstack
    have hle := k.rank_le_rank_tighter
    exact (ih stack (hstack.mono hle)).mono hle
  | @left k op ls rs l r hk hop _ _ ihl ihr =>
    intro stack hstack
    -- the level of an operator is never the one of primary expressions
    have hprimary : k ≠ .primary := by rintro rfl; exact absurd hop List.not_mem_nil
    have hrank : op.precedence = k.rank := Level.precedence_eq_rank hop
    have htighter : k.tighter.rank = op.precedence + 1 := by
      rw [Level.rank_tighter hprimary, hrank]
    have hpower : op ≠ .power := by rintro rfl; exact Level.power_notMem_operators hk hop
    have hright := ihr (.operator (.binary op) :: stack) (guards_operator (by omega) stack)
    rw [← hrank] at hstack ihl ⊢
    exact lists_binary op hstack (fun o ho => yields_of_le hpower ho) (ihl stack hstack) hright
      (by omega)
  | right _ _ ihl ihr =>
    intro stack hstack
    -- the right operand is of the same level, and is guarded because powers do not yield to it
    exact lists_binary .power hstack (fun o ho => yields_power ho)
      (ihl stack (guards_primary stack)) (ihr _ (guards_power stack)) (Nat.le_refl _)

/-- A row of tokens that derives a tree is converted to the listing of the tree. -/
theorem convert_of_derives {k : Level} {ts : List Token} {t : Tree} (h : Derives k ts t) :
    convert ts = .ok t.postorder := by
  obtain ⟨items, ops, hrun, hlist, -⟩ := lists_of_derives h [] (guards_nil _)
  simp only [convert, hrun, List.append_nil, bind, Except.bind, finish_waiting, hlist, pure,
    Except.pure]

end Yard

/-- A text whose tokens derive a tree is converted to the listing of that tree. -/
theorem toPostfix_of_derives {text : String} {ts : List Token} {t : Tree}
    (htokens : tokenize text = .ok ts) (h : Derives .disjunction ts t) :
    toPostfix text = .ok t.postorder := by
  rw [toPostfix_of_tokenize htokens]
  exact Yard.convert_of_derives h

/-- Powers group from the right, differences from the left, and redundant parentheses leave no
trace. -/
theorem toPostfix_of_derives_nested :
    toPostfix "!a ^ 2 ^ b - c - ((d)) == 'e' || f" = .ok
      (Tree.binary .or
        (.binary .equal
          (.binary .subtract
            (.binary .subtract
              (.binary .power (.negation (.literal (.word "a")))
                (.binary .power (.literal (.number (Decimal.ofFixed ['2'] [])))
                  (.literal (.word "b"))))
              (.literal (.word "c")))
            (.literal (.word "d")))
          (.literal (.string "e")))
        (.literal (.word "f"))).postorder := by
  have word (k : Level) (s : String) : Derives k [.word s] (.literal (.word s)) :=
    (Derives.literal (.word s)).loosen (by cases k <;> decide)
  have hinner := Derives.right (.literal (.number (Decimal.ofFixed ['2'] []))) (word .power "b")
  have hpower := Derives.right (word .primary "a").negation hinner
  have hparens := ((word .disjunction "d").paren.loosen (by decide)).paren
  have hsubtract : BinaryOperator.subtract ∈ Level.sum.operators := by decide
  have hfirst := (hpower.loosen (j := .sum) (by decide)).left (by decide) hsubtract
    (word .product "c")
  have hsum := hfirst.left (by decide) hsubtract (hparens.loosen (j := .product) (by decide))
  have hisEqual : BinaryOperator.equal ∈ Level.comparison.operators := by decide
  have hequal := (hsum.loosen (j := .comparison) (by decide)).left (by decide) hisEqual
    ((Derives.literal (.string "e")).loosen (j := .sum) (by decide))
  have hisOr : BinaryOperator.or ∈ Level.disjunction.operators := by decide
  have hor := (hequal.loosen (j := .disjunction) (by decide)).left (by decide) hisOr
    (word .conjunction "f")
  exact toPostfix_of_derives (tokenize_of_lexemes (by rfl)) hor

end DocQuery.Expression
