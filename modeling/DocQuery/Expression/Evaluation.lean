import DocQuery.Decimal.Layout
import DocQuery.Expression.Postfix
import DocQuery.Pattern.Reader

/-!
# Evaluation of Filter Expressions

An expression in postfix order runs on a stack of operands.  Comparison and logic produce one
for true and zero for false, so that arithmetic and logic share the stack.  An expression is
true when exactly one operand is left and it is the number one.

Operands are numbers or text.  Two numbers are combined as numbers; otherwise comparison and
matching take the text of both operands, and every other operator fails.

## Main definitions

- `Operand`: what lies on the stack
- `combine`: the result of an operator on two operands
- `evaluatePostfix`: the truth value of a list of items
- `evaluate`: the truth value of an expression text
-/

namespace DocQuery.Expression

open DocQuery.Decimal

/-- A value on the stack. -/
inductive Operand where
  | number (x : Float)
  | text (s : String)
deriving DecidableEq

/-- The text of a number in messages and comparisons. -/
def numberText (x : Float) : String := String.ofList (Layout.positional.text x)

/-- The text of an operand. -/
def Operand.toText : Operand → String
  | number x => numberText x
  | text s => s

/-- The operand that a literal stands for. -/
def Literal.operand : Literal → Operand
  | number x => .number x
  | string s => .text s
  | word s => if s = "true" then .number 1 else if s = "false" then .number 0 else .text s

/-- The number for a truth value. -/
def truth (b : Bool) : Float := if b then 1 else 0

namespace BinaryOperator

/-- The result of an operator on two numbers; matching has none. -/
def onNumbers? (x y : Float) : BinaryOperator → Option Float
  | add => some (x + y)
  | subtract => some (x - y)
  | multiply => some (x * y)
  | divide => some (x / y)
  | power => some (x.pow y)
  | greater => some (truth (y < x))
  | less => some (truth (x < y))
  | equal => some (truth (x == y))
  | notEqual => some (truth (x != y))
  | greaterEqual => some (truth (y ≤ x))
  | lessEqual => some (truth (x ≤ y))
  | and => some (truth (x != 0 && y != 0))
  | or => some (truth (x != 0 || y != 0))
  | matching => none

/-- The result of an operator on two texts.  Texts are ordered by their characters; matching
reads the right one as a pattern that has to cover the whole left one. -/
def onTexts (a b : String) : BinaryOperator → Except ExprError Float
  | equal => .ok (truth (a == b))
  | notEqual => .ok (truth (a != b))
  | greater => .ok (truth (b < a))
  | less => .ok (truth (a < b))
  | greaterEqual => .ok (truth (b ≤ a))
  | lessEqual => .ok (truth (a ≤ b))
  | matching =>
    match Pattern.fullMatch? b a with
    | some m => .ok (truth m)
    | none => .error (.invalidPattern b)
  | op => .error (.unsupportedOperand (.binary op) a b)

/-- The result of an operator on a left and a right operand. -/
def combine (op : BinaryOperator) (left right : Operand) : Except ExprError Float :=
  match left, right with
  | .number x, .number y =>
    match op.onNumbers? x y with
    | some z => .ok z
    | none => .error (.unsupportedOperand (.binary op) left.toText right.toText)
  | _, _ => op.onTexts left.toText right.toText

end BinaryOperator

/-- The result of negation: true for zero, false for any other number. -/
def negate : Operand → Except ExprError Float
  | .number x => .ok (truth (x == 0))
  | .text s => .error (.unsupportedOperand .negation s "")

/-- What an operator leaves on the stack; the right operand lies on top. -/
def Operator.run (op : Operator) (stack : List Operand) : Except ExprError (List Operand) :=
  match op, stack with
  | .negation, b :: rest => (negate b).map (.number · :: rest)
  | .binary op, b :: a :: rest => (op.combine a b).map (.number · :: rest)
  | op, _ => .error (.missingOperand op)

/-- What an item leaves on the stack. -/
def Item.run (item : Item) (stack : List Operand) : Except ExprError (List Operand) :=
  match item with
  | .literal l => .ok (l.operand :: stack)
  | .operator op => op.run stack

/-- What a list of items leaves on the stack. -/
def runItems (stack : List Operand) : List Item → Except ExprError (List Operand)
  | [] => .ok stack
  | item :: items => do
    let stack ← item.run stack
    runItems stack items

/-- The truth value of a single operand. -/
def Operand.verdict : Operand → Bool
  | number x => x == 1
  | text _ => false

/-- The truth value of what is left on the stack. -/
def verdict : List Operand → Except ExprError Bool
  | [] => .error .noValue
  | [a] => .ok a.verdict
  | stack => .error (.leftover stack.length)

/-- The truth value of an expression in postfix order. -/
def evaluatePostfix (items : List Item) : Except ExprError Bool := do
  let stack ← runItems [] items
  verdict stack

/-- The truth value of an expression text. -/
def evaluate (text : String) : Except ExprError Bool := do
  let items ← toPostfix text
  evaluatePostfix items

/-! ## Small facts -/

/-- Running two lists of items is running the first and then the second. -/
theorem runItems_append (stack : List Operand) (items more : List Item) :
    runItems stack (items ++ more) = (do
      let stack ← runItems stack items
      runItems stack more) := by
  induction items generalizing stack with
  | nil => rfl
  | cons item items ih =>
    simp only [List.cons_append, runItems, bind, Except.bind]
    cases item.run stack with
    | error e => rfl
    | ok stack => exact ih stack

end DocQuery.Expression
