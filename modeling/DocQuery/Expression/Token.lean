/-!
# Operators and Tokens of Filter Expressions

The operator table: arithmetic, comparison, matching and logic, with the binding strength
and the associativity that the conversion to postfix order goes by.

The words of the expression language, once as they stand in the text (`Token`, with
parentheses) and once in postfix order (`Item`, where parentheses have done their work).
-/

namespace DocQuery.Expression

/-! ## Operators -/

/-- The operators between two operands. -/
inductive BinaryOperator where
  | add
  | subtract
  | multiply
  | divide
  /-- Raising to a power -/
  | power
  | equal
  | notEqual
  | less
  | greater
  | lessEqual
  | greaterEqual
  /-- A pattern matches the whole text -/
  | matching
  /-- Both are true -/
  | and
  /-- One of them is true -/
  | or
deriving DecidableEq, Repr

/-- The operators of filter expressions.  Negation is the only one with a single operand. -/
inductive Operator where
  /-- Logical negation, written before its operand -/
  | negation
  /-- An operator between two operands -/
  | binary (op : BinaryOperator)
deriving DecidableEq, Repr

namespace BinaryOperator

/-- How tightly an operator binds its operands; higher binds tighter. -/
def precedence : BinaryOperator → Nat
  | or => 1
  | and => 2
  | equal | notEqual | less | greater | lessEqual | greaterEqual | matching => 3
  | add | subtract => 4
  | multiply | divide => 5
  | power => 6

/-- How an operator is written. -/
def symbol : BinaryOperator → String
  | add => "+"
  | subtract => "-"
  | multiply => "*"
  | divide => "/"
  | power => "^"
  | equal => "=="
  | notEqual => "!="
  | less => "<"
  | greater => ">"
  | lessEqual => "<="
  | greaterEqual => ">="
  | matching => "~"
  | and => "&&"
  | or => "||"

end BinaryOperator

namespace Operator

/-- How tightly an operator binds; negation binds tightest. -/
def precedence : Operator → Nat
  | negation => 7
  | binary op => op.precedence

/-- Whether a chain of the operator groups from the right. -/
def isRightAssociative : Operator → Bool
  | negation => true
  | binary op => op == .power

/-- How the operator is written. -/
def symbol : Operator → String
  | negation => "!"
  | binary op => op.symbol

/-- Negation binds tighter than every other operator. -/
theorem precedence_binary_lt (op : BinaryOperator) :
    (binary op).precedence < negation.precedence := by
  cases op <;> decide

end Operator

/-! ## Tokens -/

/-- An operand as it is written. -/
inductive Literal where
  /-- A number; every number is a floating-point number here. -/
  | number (x : Float)
  /-- Text that stood between single quotes. -/
  | string (s : String)
  /-- A bare word.  `true` and `false` are truth values, any other word is text. -/
  | word (s : String)
deriving DecidableEq

/-- A token of an expression. -/
inductive Token where
  | literal (l : Literal)
  | operator (op : Operator)
  | leftParen
  | rightParen
deriving DecidableEq

/-- One item of an expression in postfix order. -/
inductive Item where
  /-- An operand, to be put on the stack -/
  | literal (l : Literal)
  /-- An operator, to be applied to the operands on top of the stack -/
  | operator (op : Operator)
deriving DecidableEq

/-- A number token. -/
abbrev Token.number (x : Float) : Token := .literal (.number x)

/-- A string token. -/
abbrev Token.string (s : String) : Token := .literal (.string s)

/-- A word token. -/
abbrev Token.word (s : String) : Token := .literal (.word s)

/-- A token for an operator between two operands. -/
abbrev Token.binary (op : BinaryOperator) : Token := .operator (.binary op)

end DocQuery.Expression
