import DocQuery.Json.Lexeme

/-!
# Reading JSON

A machine with a stack turns the lexemes of a text into a tree.  The stack holds the arrays
and objects that are open; the machine knows what may come next.  Of members with the same
name the first gives the place and the last the value.

Arrays and objects must not nest more than `maxDepth` deep, and nothing may follow the value.
-/

namespace DocQuery.Json

/-- An array or object that is open. -/
inductive Frame where
  /-- An array with the items read so far, last first -/
  | array (items : List Tree)
  /-- An object with the members read so far, waiting for the value of `name` -/
  | object (members : Members Tree) (name : String)

/-- What may come next. -/
inductive Expected where
  /-- A value; `first` right behind the opening bracket of an array, where the closing one may
  come as well -/
  | value (first : Bool)
  /-- The name of a member; `first` right behind the opening brace -/
  | name (members : Members Tree) (first : Bool)
  /-- The colon behind the name of a member -/
  | colon (members : Members Tree) (name : String)
  /-- What follows a value: the end, a comma or a closing bracket -/
  | afterValue (t : Tree)

/-- The tree that the rest of the lexemes completes. -/
def run : Expected → List Frame → List Lexeme → Option Tree
  | .afterValue t, [], [] => some t
  | _, _, [] => none
  | .value first, frames, l :: ls =>
    match l with
    | .null => run (.afterValue .null) frames ls
    | .bool b => run (.afterValue (.bool b)) frames ls
    | .number n => run (.afterValue (.number n)) frames ls
    | .string s => run (.afterValue (.string s)) frames ls
    | .openArray =>
      if frames.length < maxDepth then run (.value true) (.array [] :: frames) ls else none
    | .openObject => if frames.length < maxDepth then run (.name [] true) frames ls else none
    | .closeArray =>
      match first, frames with
      | true, .array items :: frames => run (.afterValue (.array items.reverse)) frames ls
      | _, _ => none
    | _ => none
  | .name members first, frames, l :: ls =>
    match l with
    | .string s => run (.colon members s) frames ls
    | .closeObject => if first then run (.afterValue (.object members)) frames ls else none
    | _ => none
  | .colon members name, frames, l :: ls =>
    match l with
    | .colon => run (.value false) (.object members name :: frames) ls
    | _ => none
  | .afterValue t, frames, l :: ls =>
    match l, frames with
    | .comma, .array items :: frames => run (.value false) (.array (t :: items) :: frames) ls
    | .closeArray, .array items :: frames =>
      run (.afterValue (.array (t :: items).reverse)) frames ls
    | .comma, .object members name :: frames =>
      run (.name (members.set name t) false) frames ls
    | .closeObject, .object members name :: frames =>
      run (.afterValue (.object (members.set name t))) frames ls
    | _, _ => none

/-- The tree that a text stands for. -/
def read? (text : String) : Option Tree :=
  (lexemes? text.toList).bind (run (.value false) [])

end DocQuery.Json
