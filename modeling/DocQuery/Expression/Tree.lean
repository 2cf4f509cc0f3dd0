import DocQuery.Expression.Evaluation

/-!
# Expression Trees

The tree behind an expression: literals at the leaves, operators at the nodes.  A tree is
evaluated from the left to the right and from the leaves to the root, without shortcuts, and
the first error met is the answer.

`Tree.postorder` lists a tree in postfix order.  Running that list on a stack is the same as
evaluating the tree and putting its value on the stack.

## Main statements

- `Tree.runItems_postorder`: the stack machine evaluates trees
-/

namespace DocQuery.Expression

/-- An expression as a tree. -/
inductive Tree where
  | literal (l : Literal)
  | negation (t : Tree)
  /-- An operator between two expressions -/
  | binary (op : BinaryOperator) (left right : Tree)
deriving DecidableEq

namespace Tree

/-- The items of a tree: operands before their operator. -/
def postorder : Tree → List Item
  | literal l => [.literal l]
  | negation t => t.postorder ++ [.operator .negation]
  | binary op l r => l.postorder ++ r.postorder ++ [.operator (.binary op)]

/-- The value of a tree. -/
def value : Tree → Except ExprError Operand
  | literal l => .ok l.operand
  | negation t => do
    let a ← t.value
    return .number (← negate a)
  | binary op l r => do
    let a ← l.value
    let b ← r.value
    return .number (← op.combine a b)

/-- The truth value of a tree. -/
def truthValue (t : Tree) : Except ExprError Bool := t.value.map Operand.verdict

/-- Running the items of a tree puts its value on the stack. -/
theorem runItems_postorder (t : Tree) (stack : List Operand) :
    runItems stack t.postorder = t.value.map (· :: stack) := by
  induction t generalizing stack with
  | literal l => rfl
  | negation t ih =>
    rw [postorder, runItems_append, ih]
    simp only [value, bind, Except.bind, Except.map, pure, Except.pure]
    cases t.value with
    | error e => rfl
    | ok a =>
      simp only [runItems, Item.run, Operator.run, bind, Except.bind, Except.map]
      cases negate a <;> rfl
  | binary op l r ihl ihr =>
    rw [postorder, runItems_append, runItems_append, ihl]
    simp only [value, bind, Except.bind, Except.map, pure, Except.pure]
    cases l.value with
    | error e => rfl
    | ok a =>
      simp only [ihr, Except.map]
      cases r.value with
      | error e => rfl
      | ok b =>
        simp only [runItems, Item.run, Operator.run, bind, Except.bind, Except.map]
        cases op.combine a b <;> rfl

end Tree

end DocQuery.Expression
