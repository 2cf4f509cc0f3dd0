import Mathlib
import DocQuery.Proofs.Expression.Grammar

/-!
# What the Conversion Keeps

The conversion to postfix order moves tokens, it neither drops nor copies them.  Operands come out
in the order in which they are read.  Operators wait in between, and each of them comes out once,
whatever stands around it; that holds of rows of tokens that are no expressions as well.

While a parenthesis is open nothing that waits outside of it is touched, and the closing one
releases what would be released at the end.  So parentheses around a whole row do not show.

## Main definitions

- `Yard.Unstacks`: some of the operators that wait are released
- `Yard.Conserves`: what becomes of the operands and operators of a row

## Main statements

- `Yard.conserves_run`: nothing is lost or added, from any stack on
- `Yard.run_above_paren`: what waits outside of a parenthesis is not touched
- `Yard.conserves_convert`, `Yard.convert_paren`: what comes out of a conversion that succeeds
-/

namespace DocQuery.Expression

open scoped List

variable {stack after : List Waiting} {items : List Item} {t : Token} {ts : List Token}

/-! ## Operands and operators -/

/-- The operand that a token is. -/
def Token.literal? : Token → Option Literal
  | .literal l => some l
  | _ => none

/-- The operator that a token is. -/
def Token.operator? : Token → Option Operator
  | .operator op => some op
  | _ => none

/-- The operand that an item is. -/
def Item.literal? : Item → Option Literal
  | .literal l => some l
  | .operator _ => none

/-- The operator that an item is. -/
def Item.operator? : Item → Option Operator
  | .literal _ => none
  | .operator op => some op

/-- The operator that waits. -/
def Waiting.operator? : Waiting → Option Operator
  | .operator op => some op
  | .paren => none

namespace Yard

/-- Items that were waiting at the top of a stack, in the order in which they waited. -/
def Unstacks (stack : List Waiting) (items : List Item) (after : List Waiting) : Prop :=
  items.filterMap Item.literal? = [] ∧
    items.filterMap Item.operator? ++ after.filterMap Waiting.operator? =
      stack.filterMap Waiting.operator?

theorem Unstacks.nil (stack : List Waiting) : Unstacks stack [] stack := ⟨rfl, rfl⟩

theorem Unstacks.operator (h : Unstacks stack items after) (op : Operator) :
    Unstacks (.operator op :: stack) (.operator op :: items) after :=
  ⟨h.1, congrArg (op :: ·) h.2⟩

theorem unstacks_release (op : Operator) (stack : List Waiting) :
    Unstacks stack (release op stack).1 (release op stack).2 := by
  induction stack with
  | nil => exact .nil []
  | cons top stack ih =>
    cases top with
    | paren => exact .nil _
    | operator top =>
      simp only [release]
      split
      · exact ih.operator top
      · exact .nil _

theorem unstacks_close (h : close stack = .ok (items, after)) : Unstacks stack items after := by
  induction stack generalizing items with
  | nil => cases h
  | cons top stack ih =>
    cases top with
    | paren =>
      cases h
      exact ⟨rfl, rfl⟩
    | operator op =>
      obtain ⟨more, hclose, rfl⟩ := close_operator_eq_ok.mp h
      exact (ih hclose).operator op

theorem unstacks_finish (h : finish stack = .ok items) : Unstacks stack items [] := by
  induction stack generalizing items with
  | nil =>
    cases h
    exact .nil []
  | cons top stack ih =>
    cases top with
    | paren => cases h
    | operator op =>
      obtain ⟨more, hfinish, rfl⟩ := finish_operator_eq_ok.mp h
      exact (ih hfinish).operator op

/-- What happened to the operands and operators of `ts`, read on top of `stack`: the operands are in
the output in their order, and each operator is in the output or waits. -/
def Conserves (stack : List Waiting) (ts : List Token) (items : List Item)
    (after : List Waiting) : Prop :=
  items.filterMap Item.literal? = ts.filterMap Token.literal? ∧
    items.filterMap Item.operator? ++ after.filterMap Waiting.operator? ~
      ts.filterMap Token.operator? ++ stack.filterMap Waiting.operator?

theorem conserves_step (h : step stack t = .ok (items, after)) :
    Conserves stack [t] items after := by
  cases t with
  | literal l =>
    cases h
    exact ⟨rfl, .refl _⟩
  | leftParen =>
    cases h
    exact ⟨rfl, .refl _⟩
  | rightParen =>
    obtain ⟨hliterals, hoperators⟩ := unstacks_close h
    exact ⟨hliterals, .of_eq hoperators⟩
  | operator op =>
    cases op with
    | negation =>
      cases h
      exact ⟨rfl, .refl _⟩
    | binary op =>
      cases h
      obtain ⟨hliterals, hoperators⟩ := unstacks_release (.binary op) stack
      refine ⟨hliterals, List.perm_middle.trans ?_⟩
      rw [hoperators]
      exact .refl _

theorem conserves_run (h : run stack ts = .ok (items, after)) : Conserves stack ts items after := by
  -- on the tokens; what the first one leaves waiting is released or left waiting by the others
  induction ts generalizing stack items with
  | nil =>
    cases h
    exact ⟨rfl, .refl _⟩
  | cons t ts ih =>
    obtain ⟨first, middle, more, hstep, hrun, rfl⟩ := run_cons_eq_ok.mp h
    obtain ⟨hliterals, hoperators⟩ := conserves_step hstep
    obtain ⟨hmore, hrest⟩ := ih hrun
    rw [← List.singleton_append, Conserves]
    simp only [List.filterMap_append, hliterals, hmore, List.append_assoc, true_and]
    calc first.filterMap Item.operator? ++
          (more.filterMap Item.operator? ++ after.filterMap Waiting.operator?)
        ~ first.filterMap Item.operator? ++
          (ts.filterMap Token.operator? ++ middle.filterMap Waiting.operator?) :=
          hrest.append_left _
      _ ~ ts.filterMap Token.operator? ++
          (first.filterMap Item.operator? ++ middle.filterMap Waiting.operator?) := by
          rw [← List.append_assoc, ← List.append_assoc]
          exact List.perm_append_comm.append_right _
      _ ~ ts.filterMap Token.operator? ++
          ([t].filterMap Token.operator? ++ stack.filterMap Waiting.operator?) :=
          hoperators.append_left _
      _ ~ [t].filterMap Token.operator? ++
          (ts.filterMap Token.operator? ++ stack.filterMap Waiting.operator?) := by
          rw [← List.append_assoc, ← List.append_assoc]
          exact List.perm_append_comm.append_right _

/-- A row of tokens that can be converted comes out with its operands in their order and with each
of its operators once. -/
theorem conserves_convert (h : convert ts = .ok items) :
    items.filterMap Item.literal? = ts.filterMap Token.literal? ∧
      items.filterMap Item.operator? ~ ts.filterMap Token.operator? := by
  obtain ⟨first, stack, last, hrun, hfinish, rfl⟩ := convert_eq_ok.mp h
  obtain ⟨hliterals, hoperators⟩ := conserves_run hrun
  obtain ⟨hlast, hreleased⟩ := unstacks_finish hfinish
  simp only [List.filterMap_nil, List.append_nil] at hreleased hoperators
  simp only [List.filterMap_append, hlast, hliterals, hreleased, hoperators, List.append_nil,
    and_self]

end Yard

/-! ## Parentheses around a row -/

namespace Yard

variable {below : List Waiting}

theorem release_above_paren (op : Operator) (stack below : List Waiting) :
    release op (stack ++ .paren :: below) =
      ((release op stack).1, (release op stack).2 ++ .paren :: below) := by
  induction stack with
  | nil => rfl
  | cons top stack ih =>
    cases top with
    | paren => rfl
    | operator top =>
      simp only [List.cons_append, release, ih]
      split <;> rfl

theorem close_above_paren (h : close stack = .ok (items, after)) :
    close (stack ++ .paren :: below) = .ok (items, after ++ .paren :: below) := by
  induction stack generalizing items with
  | nil => cases h
  | cons top stack ih =>
    cases top with
    | paren =>
      cases h
      rfl
    | operator op =>
      obtain ⟨more, hclose, rfl⟩ := close_operator_eq_ok.mp h
      exact close_operator_eq_ok.mpr ⟨more, ih hclose, rfl⟩

theorem step_above_paren (h : step stack t = .ok (items, after)) :
    step (stack ++ .paren :: below) t = .ok (items, after ++ .paren :: below) := by
  cases t with
  | literal l => cases h; rfl
  | leftParen => cases h; rfl
  | rightParen => exact close_above_paren h
  | operator op =>
    cases op with
    | negation => cases h; rfl
    | binary op =>
      cases h
      simp only [step, release_above_paren, List.cons_append]

/-- What waits outside of a parenthesis is not touched as long as it is open. -/
theorem run_above_paren (h : run stack ts = .ok (items, after)) :
    run (stack ++ .paren :: below) ts = .ok (items, after ++ .paren :: below) := by
  -- no step looks below the parenthesis, and one that closed it would fail in the run alone
  induction ts generalizing stack items with
  | nil => cases h; rfl
  | cons t ts ih =>
    obtain ⟨first, middle, more, hstep, hrun, rfl⟩ := run_cons_eq_ok.mp h
    exact run_cons_eq_ok.mpr ⟨first, _, more, step_above_paren hstep, ih hrun, rfl⟩

/-- The closing parenthesis releases what would be released at the end. -/
theorem close_of_finish (h : finish stack = .ok items) :
    close (stack ++ .paren :: below) = .ok (items, below) := by
  induction stack generalizing items with
  | nil => cases h; rfl
  | cons top stack ih =>
    cases top with
    | paren => cases h
    | operator op =>
      obtain ⟨more, hfinish, rfl⟩ := finish_operator_eq_ok.mp h
      exact close_operator_eq_ok.mpr ⟨more, ih hfinish, rfl⟩

/-- Parentheses around a row of tokens that can be converted do not show. -/
theorem convert_paren (h : convert ts = .ok items) :
    convert (.leftParen :: ts ++ [.rightParen]) = .ok items := by
  obtain ⟨first, stack, last, hrun, hfinish, rfl⟩ := convert_eq_ok.mp h
  have hclose : run (stack ++ [.paren]) [.rightParen] = .ok (last ++ [], []) :=
    run_cons_of_ok (close_of_finish hfinish) rfl
  rw [List.append_nil] at hclose
  have hinside : run [.paren] (ts ++ [.rightParen]) = .ok (first ++ last, []) :=
    run_append_of_ok (run_above_paren hrun) hclose
  have hopen : step [] .leftParen = .ok ([], [.paren]) := rfl
  exact convert_eq_ok.mpr ⟨_, [], [], run_cons_of_ok hopen hinside, rfl,
    (List.append_nil _).symm⟩

end Yard

end DocQuery.Expression
