import DocQuery.Expression.Lexer

/-!
# Conversion to Postfix Order

Operands go straight to the output.  An operator waits on a stack until its right operand is
complete: the next operator first releases every waiting operator that binds at least as
tightly, or strictly tighter if it groups from the right.  A parenthesis keeps the operators
outside it waiting until its partner comes.

## Main definitions

- `Yard.step`: what one token releases, and what waits afterwards
- `Yard.run`: the same for a list of tokens
- `toPostfix`: the postfix order of an expression text
-/

namespace DocQuery.Expression

/-- What can wait on the operator stack. -/
inductive Waiting where
  /-- An operator whose right operand is not complete -/
  | operator (op : Operator)
  /-- A parenthesis that is still open -/
  | paren
deriving DecidableEq

namespace Yard

/-- Whether a waiting operator is released when `op` comes. -/
def yields (waiting op : Operator) : Bool :=
  if op.isRightAssociative then op.precedence < waiting.precedence
  else op.precedence ≤ waiting.precedence

/-- The operators on top of the stack that are released when `op` comes, and the rest. -/
def release (op : Operator) : List Waiting → List Item × List Waiting
  | .operator top :: stack =>
    if yields top op then
      let (items, rest) := release op stack
      (.operator top :: items, rest)
    else ([], .operator top :: stack)
  | stack => ([], stack)

/-- The operators inside the innermost open parenthesis, and what waits outside it. -/
def close : List Waiting → Except ExprError (List Item × List Waiting)
  | [] => .error .unmatchedParen
  | .paren :: stack => .ok ([], stack)
  | .operator op :: stack => do
    let (items, rest) ← close stack
    return (.operator op :: items, rest)

/-- What one token releases, and what waits afterwards.  Negation has no left operand, so
nothing that waits can be complete when it comes. -/
def step (stack : List Waiting) : Token → Except ExprError (List Item × List Waiting)
  | .literal l => .ok ([.literal l], stack)
  | .leftParen => .ok ([], .paren :: stack)
  | .rightParen => close stack
  | .operator .negation => .ok ([], .operator .negation :: stack)
  | .operator (.binary op) =>
    let (items, rest) := release (.binary op) stack
    .ok (items, .operator (.binary op) :: rest)

/-- What a list of tokens releases, and what waits at its end. -/
def run (stack : List Waiting) : List Token → Except ExprError (List Item × List Waiting)
  | [] => .ok ([], stack)
  | t :: ts => do
    let (items, stack) ← step stack t
    let (more, stack) ← run stack ts
    return (items ++ more, stack)

/-- At the end everything that waits is released; a parenthesis must not be among it. -/
def finish : List Waiting → Except ExprError (List Item)
  | [] => .ok []
  | .operator op :: stack => do
    let items ← finish stack
    return .operator op :: items
  | .paren :: _ => .error .unclosedParen

/-- The postfix order of a list of tokens. -/
def convert (ts : List Token) : Except ExprError (List Item) := do
  let (items, stack) ← run [] ts
  let last ← finish stack
  return items ++ last

end Yard

/-- The postfix order of an expression text.  The text is read token by token: a closing
parenthesis without partner is reported before a lexical error further right, and an opening
one without partner only when the whole text has been read. -/
def toPostfix (text : String) : Except ExprError (List Item) := do
  let (ts, failure) := (Cursor.start text).tokens
  let (items, stack) ← Yard.run [] ts
  match failure with
  | some e => .error (.lexical e)
  | none =>
    let last ← Yard.finish stack
    return items ++ last

/-! ## Small facts -/

namespace Yard

/-- Running over two lists is running over the first and then over the second. -/
theorem run_append (stack : List Waiting) (ts us : List Token) :
    run stack (ts ++ us) = (do
      let (items, stack) ← run stack ts
      let (more, stack) ← run stack us
      return (items ++ more, stack)) := by
  induction ts generalizing stack with
  | nil =>
    simp only [List.nil_append, run, bind, Except.bind]
    cases run stack us <;> simp [pure, Except.pure]
  | cons t ts ih =>
    simp only [List.cons_append, run]
    cases step stack t with
    | error e => rfl
    | ok out =>
      obtain ⟨items, stack⟩ := out
      simp only [ih, bind, Except.bind]
      cases run stack ts with
      | error e => rfl
      | ok out =>
        obtain ⟨more, stack⟩ := out
        simp only [pure, Except.pure]
        cases run stack us with
        | error e => rfl
        | ok out => simp

end Yard

/-- A text that can be cut into tokens is converted as its tokens are. -/
theorem toPostfix_of_tokenize {text : String} {ts : List Token} (h : tokenize text = .ok ts) :
    toPostfix text = Yard.convert ts := by
  unfold tokenize at h
  unfold toPostfix Yard.convert
  split at h
  · next ts' heq =>
    cases h
    rw [heq]
  · cases h

end DocQuery.Expression
