import DocQuery.Decimal.Reading
import DocQuery.Expression.Token

/-!
# Errors of Filter Expressions

What can be wrong with an expression: a character out of place, unbalanced parentheses,
operands missing or left over, a pattern that cannot be read, an operator applied to operands
it has no meaning for.  Positions count characters from the start of the text.
-/

namespace DocQuery.Expression

open DocQuery.Decimal (natText)

/-- Text that is no token. -/
inductive LexicalError where
  /-- A quote at `position` is never closed. -/
  | unterminatedString (position : Nat)
  | loneEquals (position : Nat)
  /-- A character that starts no token. -/
  | unexpectedCharacter (c : Char) (position : Nat)
deriving DecidableEq

/-- Why an expression has no truth value. -/
inductive ExprError where
  /-- The text cannot be cut into tokens. -/
  | lexical (e : LexicalError)
  /-- An opening parenthesis has no partner. -/
  | unclosedParen
  /-- A closing parenthesis has no partner. -/
  | unmatchedParen
  /-- An operator finds too few operands. -/
  | missingOperand (op : Operator)
  /-- The expression holds nothing at all. -/
  | noValue
  /-- More than one operand is left at the end. -/
  | leftover (count : Nat)
  /-- The right side of a match is no pattern. -/
  | invalidPattern (pattern : String)
  /-- The operator has no meaning for these operands. -/
  | unsupportedOperand (op : Operator) (left right : String)
deriving DecidableEq

/-- The decimal digits of `n`. -/
private def digits (n : Nat) : String := String.ofList (natText n)

/-- What a lexical error reads like. -/
def LexicalError.message : LexicalError → String
  | unterminatedString p => "unterminated string starting at position " ++ digits p
  | loneEquals p => "unexpected '=' at position " ++ digits p ++ " (did you mean '=='?)"
  | unexpectedCharacter c p =>
    "unexpected character '" ++ String.ofList [c] ++ "' at position " ++ digits p

namespace ExprError

/-- The defect that makes an expression malformed; `none` for a well-formed one whose
operands do not fit. -/
def defect? : ExprError → Option String
  | lexical e => some e.message
  | unclosedParen => some "unclosed '(' in expression"
  | unmatchedParen => some "unmatched ')' in expression"
  | missingOperand op => some ("missing operand for '" ++ op.symbol ++ "'")
  | noValue => some "expression produced no value"
  | leftover n => some ("expression left " ++ digits n ++ " operands on the stack")
  | invalidPattern p => some ("invalid pattern '" ++ p ++ "'")
  | unsupportedOperand .. => none

/-- What an error reads like. -/
def message : ExprError → String
  | unsupportedOperand op left right =>
    "Unsupported operand type for operator " ++ op.symbol ++ ": operand " ++ left ++ " and " ++
      right
  | e => "Malformed expression: " ++ (e.defect?.getD "")

/-- Whether the expression itself is at fault, rather than the kind of its operands. -/
def isMalformed (e : ExprError) : Bool := e.defect?.isSome

end ExprError

end DocQuery.Expression
