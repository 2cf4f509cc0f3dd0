import DocQuery.Expression.Evaluation
import DocQuery.Store.Value
import DocQuery.Text.CaseFold

/-!
# Filters

A filter expression refers to the members of an element as `@.name`.  For each element the
references are replaced by literals for the members' values, and the text that results is
evaluated.  An element is kept when that gives true; one with a missing member, a member that
has no literal, or a text that cannot be evaluated is dropped without more ado.

An array is filtered element by element, without the arrays in it.  An object is kept or
dropped as a whole.  A scalar in an array answers to the number of its place alone.

## Main definitions

- `Template`: an expression text with references
- `literal?`: the literal for a value
- `Store.test`: whether an element is kept
- `Store.filter`: what a filter keeps of a value
-/

namespace DocQuery

open DocQuery.Text DocQuery.Decimal DocQuery.Expression

/-! ## Templates -/

/-- A piece of an expression text. -/
inductive TemplatePart where
  /-- A character that stands for itself -/
  | char (c : Char)
  | reference (name : List Char)
deriving DecidableEq

namespace Template

/-- The pieces of an expression text.  The name in a reference is a run of word
characters, and as long as possible. -/
def parts : List Char → List TemplatePart
  | [] => []
  | '@' :: '.' :: cs =>
    let name := cs.takeWhile isWord
    if name.isEmpty then .char '@' :: .char '.' :: parts cs
    else .reference name :: parts (cs.drop name.length)
  | c :: cs => .char c :: parts cs
termination_by cs => cs.length
decreasing_by all_goals simp only [List.length_drop, List.length_cons]; omega

/-- The text of a piece, with references looked up by `find?`. -/
def fillPart? (find? : List Char → Option (List Char)) : TemplatePart → Option (List Char)
  | .char c => some [c]
  | .reference name => find? name

/-- The text with all references filled in, or nothing if one cannot be. -/
def fill? (find? : List Char → Option (List Char)) : List TemplatePart → Option (List Char)
  | [] => some []
  | p :: ps => do
    let text ← fillPart? find? p
    let rest ← fill? find? ps
    return text ++ rest

end Template

/-! ## Literals -/

/-- Strings that stand for true, in any case. -/
def truthyWords : List (List Char) :=
  [['y', 'e', 's'], ['n', 'd', 'i', 'o'], ['n', 'd', 'i', 'y', 'o'], ['t', 'r', 'u', 'e']]

/-- Strings that stand for false, in any case. -/
def falsyWords : List (List Char) :=
  [['h', 'a', 'p', 'a', 'n', 'a'], ['n', 'o'], ['f', 'a', 'l', 's', 'e']]

/-- Whether `s` is one of the words, in any case. -/
def isOneOf (words : List (List Char)) (s : List Char) : Bool :=
  words.any fun w => s.map fold == w

/-- A negative number has to be written as a difference. -/
def negated (size : List Char) : List Char :=
  ['(', '0', ' ', '-', ' '] ++ size ++ [')']

/-- The literal for a whole number. -/
def integerLiteral (n : Int) : List Char :=
  if n < 0 then negated (natText n.natAbs) else natText n.natAbs

/-- The literal for a floating-point number; both zeros are written alike. -/
def floatLiteral (x : Float) : List Char :=
  if x == 0 then ['0']
  else if x < 0 then negated (Layout.positional.text (-x))
  else Layout.positional.text x

/-- A text between single quotes. -/
def quoted (s : String) : List Char := '\x27' :: (s.toList ++ ['\x27'])

/-- The literal for a string. -/
def stringLiteral (s : String) : List Char :=
  if isOneOf truthyWords s.toList then ['t', 'r', 'u', 'e']
  else if isOneOf falsyWords s.toList then ['f', 'a', 'l', 's', 'e']
  else quoted s

/-- The literal for a value; absent values and containers have none. -/
def literal? : Value → Option (List Char)
  | .bool b => some (if b then ['t', 'r', 'u', 'e'] else ['f', 'a', 'l', 's', 'e'])
  | .integer n => some (integerLiteral n.toInt)
  | .float x => some (floatLiteral x)
  | .string s => some (stringLiteral s)
  | .null | .container _ => none

/-! ## Filtering -/

namespace Store

/-- The value that a reference to `name` means in the element with the given key. -/
def referent? (s : Store) (key : String) (element : Value) (name : List Char) : Option Value :=
  if s.isObject element then s.member? element (String.ofList name)
  else if element.isPrimitive && key != "" && name == key.toList then some element
  else none

/-- The expression for an element, without brackets: every reference is replaced by its
literal. -/
def instantiate? (s : Store) (expression key : String) (element : Value) : Option String :=
  let find? (name : List Char) : Option (List Char) := (s.referent? key element name).bind literal?
  (Template.fill? find? (Template.parts expression.toList)).map fun text =>
    String.ofList (text.filter fun c => c != '[' && c != ']')

/-- Whether the expression is true of an element. -/
def test (s : Store) (expression key : String) (element : Value) : Bool :=
  match s.instantiate? expression key element with
  | none => false
  | some text =>
    match evaluate text with
    | .ok keep => keep
    | .error _ => false

/-- What a filter keeps of a value. -/
def filter (s : Store) (expression : String) (v : Value) : List Value :=
  match v with
  | .container h =>
    match s.cell h with
    | .array _ =>
      ((s.cell h).entries.filter fun e => !s.isArray e.2 && s.test expression e.1 e.2).map Prod.snd
    | .object _ => if s.test expression "" v then [v] else []
  | _ => []

/-- A filter tests the elements of an array one by one, each with the number of its place. -/
theorem filter_array {s : Store} {h : Handle} {items : List Value} (hcell : s.cell h = .array items)
    (expression : String) :
    s.filter expression (.container h) =
      (items.zipIdx.filter fun item =>
        !s.isArray item.1 && s.test expression (Nat.repr item.2) item.1).map Prod.fst := by
  simp only [filter, hcell, Cell.entries, List.filter_map, List.map_map]
  rfl

/-- A filter tests an object as a whole. -/
theorem filter_object {s : Store} {v : Value} (hobject : s.isObject v = true)
    (expression : String) :
    s.filter expression v = if s.test expression "" v then [v] else [] := by
  cases v with
  | container h =>
    cases hcell : s.cell h with
    | object members => simp only [filter, hcell]
    | array items => rw [isObject, hcell] at hobject; cases hobject
  | _ => cases hobject

end Store

end DocQuery
