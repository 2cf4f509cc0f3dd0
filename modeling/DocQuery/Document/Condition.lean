import DocQuery.Json.Printer
import DocQuery.Query.Filter
import DocQuery.Text.Cut

/-!
# Conditions

A condition is a filter expression in a looser notation: a bare word is the name of a member,
`and` and `or` connect, any run of equals signs compares, and a question mark stands for the
next argument.  Strings between single quotes and references are left as they are, and so is
everything that is none of these.

A condition is cut into parts from the left, each part as long as possible, and every part is
expanded by itself.

## Main definitions

- `ConditionPart`: what a condition is made of
- `Condition.parts`: the parts of a condition
- `Condition.expand`: the filter expression that a condition means
-/

namespace DocQuery

open DocQuery.Text DocQuery.Decimal
open DocQuery.Json (Spelling)

/-- A part of a condition. -/
inductive ConditionPart where
  /-- Text that is left as it is: a quoted string, a reference, a character of any other use -/
  | verbatim (text : List Char)
  | word (text : List Char)
  /-- A comparison that ends in an equals sign -/
  | comparison (text : List Char)
  /-- A place for an argument -/
  | parameter
deriving DecidableEq

namespace ConditionPart

/-- What a part looks like in the condition. -/
def text : ConditionPart → List Char
  | verbatim text | word text | comparison text => text
  | parameter => ['?']

/-- Words start with a letter of ASCII or a low line. -/
def startsWord (c : Char) : Bool := c.isAlpha || c == '_'

/-- The part at the front of `c :: cs`. -/
def atFront (c : Char) (cs : List Char) : ConditionPart :=
  if c = '?' then parameter
  else if c = '\x27' then
    match cutFirst? c cs with
    | some (body, _) => verbatim (c :: (body ++ [c]))
    | none => verbatim [c]
  else if c = '@' then
    let name := (cs.drop 1).takeWhile isWord
    if cs.head? = some '.' ∧ name ≠ [] then verbatim (c :: '.' :: name) else verbatim [c]
  else if startsWord c then word (c :: cs.takeWhile isWord)
  else
    let signs := cs.takeWhile (· == '=')
    if c = '=' ∨ ((c = '!' ∨ c = '<' ∨ c = '>') ∧ signs ≠ []) then comparison (c :: signs)
    else verbatim [c]

/-- What a word becomes. -/
def expandWord (text : List Char) : List Char :=
  let lower := text.map Char.toLower
  if lower = ['a', 'n', 'd'] then ['&', '&']
  else if lower = ['o', 'r'] then ['|', '|']
  else if text = Spelling.bool true ∨ text = Spelling.bool false then text
  else '@' :: '.' :: text

/-- What a comparison becomes. -/
def expandComparison (text : List Char) : List Char :=
  match text.head? with
  | some '!' => ['!', '=']
  | some '<' => ['<', '=']
  | some '>' => ['>', '=']
  | _ => ['=', '=']

/-- What a part becomes if it is no place for an argument. -/
def expanded : ConditionPart → List Char
  | verbatim text => text
  | word text => expandWord text
  | comparison text => expandComparison text
  | parameter => []

end ConditionPart

namespace Condition

/-- The parts of a condition. -/
def parts : List Char → List ConditionPart
  | [] => []
  | c :: cs =>
    let part := ConditionPart.atFront c cs
    part :: parts (cs.drop (part.text.length - 1))
termination_by cs => cs.length
decreasing_by simp only [List.length_drop, List.length_cons]; omega

/-- The expression that the parts of a condition become.  Every place for an argument takes
the next literal, and stays empty when there is none left. -/
def fill : List ConditionPart → List (List Char) → List Char
  | [], _ => []
  | .parameter :: ps, literals => literals.headD [] ++ fill ps literals.tail
  | p :: ps, literals => p.expanded ++ fill ps literals

/-- The literal for an argument.  Absent values and containers are no arguments; a number for
which there is no decimal is written as absent, unless it is negative. -/
def argument? : Value → Option (List Char)
  | .bool b => some (Spelling.bool b)
  | .integer n => some (integerLiteral n.toInt)
  | .float x => some (if x.isFinite || x < 0 then floatLiteral x else Spelling.null)
  | .string s => some (quoted s)
  | .null | .container _ => none

/-- The filter expression that a condition means for the given arguments. -/
def expand (condition : String) (arguments : List Value) : String :=
  String.ofList (fill (parts condition.toList) (arguments.filterMap argument?))

/-- Words are members and comparisons are completed. -/
example : expand "age >= ? and name = ?" [.integer 30, .string "x"]
    = "@.age >= 30 && @.name == 'x'" := by decide +kernel

/-- Strings and references are left alone. -/
example : expand "a != 'or' OR @.b == true" [] = "@.a != 'or' || @.b == true" := by
  decide +kernel

end Condition

end DocQuery
