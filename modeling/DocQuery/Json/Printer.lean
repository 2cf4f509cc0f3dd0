import DocQuery.Decimal.Layout
import DocQuery.Decimal.Reading
import DocQuery.Json.Tree
import DocQuery.Text.Cut

/-!
# Printing JSON

How strings and numbers are spelled, and how the parts of arrays and objects are laid out.

Two spellings are in use.  `Spelling.canonical` escapes every control character and writes
floating-point numbers without exponents.  `Spelling.interchange` uses all short escapes,
escapes no more than it has to, and always shows that a number is a floating-point number.

Both may be laid out on one line or with two blanks of indentation for each level.  A tree is
printed in a spelling and a style.
-/

namespace DocQuery.Json

open DocQuery.Decimal DocQuery.Text

/-- How the leaves of a JSON text are spelled. -/
structure Spelling where
  /-- One character inside a string. -/
  char : Char → List Char
  /-- The layout of floating-point numbers. -/
  float : Decimal.Layout

/-- How the parts of arrays and objects are laid out. -/
inductive Style where
  /-- On one line, without blanks -/
  | compact
  /-- One item or member a line, with two blanks for each level -/
  | indented
deriving DecidableEq

/-! ## Leaves -/

/-- The digits of `n` in base sixteen, at least four of them. -/
def hex4 (n : Nat) : List Char :=
  let digits := Nat.toDigits 16 n
  List.replicate (4 - digits.length) '0' ++ digits

/-- The escape of a character by its number. -/
def escapeNumber (c : Char) : List Char := '\\' :: 'u' :: hex4 c.toNat

/-- The escapes that every spelling uses. -/
def shortEscape? : Char → Option (List Char)
  | '"' => some ['\\', '"']
  | '\\' => some ['\\', '\\']
  | '\n' => some ['\\', 'n']
  | '\r' => some ['\\', 'r']
  | '\t' => some ['\\', 't']
  | _ => none

namespace Spelling

/-- All control characters are escaped; numbers are written without exponents. -/
def canonical : Spelling where
  char c := (shortEscape? c).getD (if isControl c then escapeNumber c else [c])
  float := .positional

/-- Control characters below the space are escaped, some of them by a letter; numbers show
whether they are whole. -/
def interchange : Spelling where
  char c := (shortEscape? c).getD
    (if c = '\x08' then ['\\', 'b']
    else if c = '\x0c' then ['\\', 'f']
    else if c.toNat < 32 then escapeNumber c
    else [c])
  float := .interchange

/-- A string between quotes. -/
def string (sp : Spelling) (s : String) : List Char :=
  '"' :: (s.toList.flatMap sp.char ++ ['"'])

/-- A floating-point number; one that is not finite is spelled `null`. -/
def number (sp : Spelling) (x : Float) : List Char :=
  if x.isFinite then sp.float.text x else ['n', 'u', 'l', 'l']

/-- A whole number. -/
def integer (n : Int) : List Char := intText n

/-- A truth value. -/
def bool (b : Bool) : List Char := if b then ['t', 'r', 'u', 'e'] else ['f', 'a', 'l', 's', 'e']

/-- The absent value. -/
def null : List Char := ['n', 'u', 'l', 'l']

end Spelling

/-! ## Arrays and objects -/

namespace Style

/-- The blanks in front of a line at the given level. -/
def indent (level : Nat) : List Char := List.replicate (2 * level) ' '

/-- The parts of an array or an object at a level, between their brackets. -/
def block (style : Style) (level : Nat) (first last : Char) (parts : List (List Char)) :
    List Char :=
  if parts.isEmpty then [first, last]
  else match style with
    | compact => first :: (join [','] parts ++ [last])
    | indented =>
      first :: '\n' :: (join [',', '\n'] (parts.map (indent (level + 1) ++ ·)) ++
        '\n' :: (indent level ++ [last]))

/-- What stands between the name and the value of a member. -/
def colon : Style → List Char
  | compact => [':']
  | indented => [':', ' ']

end Style

/-! ## Trees -/

namespace Number

/-- The text of a number. -/
def print (sp : Spelling) : Number → List Char
  | integer n => Spelling.integer n
  | float x => sp.number x

end Number

namespace Tree

mutual

/-- The text of a tree that stands at the given level. -/
def print (sp : Spelling) (style : Style) (level : Nat) : Tree → List Char
  | null => Spelling.null
  | bool b => Spelling.bool b
  | number n => n.print sp
  | string s => sp.string s
  | array items => style.block level '[' ']' (printItems sp style (level + 1) items)
  | object members =>
    style.block level '\x7b' '\x7d' (printMembers sp style (level + 1) members)

/-- The texts of the items of an array. -/
def printItems (sp : Spelling) (style : Style) (level : Nat) : List Tree → List (List Char)
  | [] => []
  | t :: ts => t.print sp style level :: printItems sp style level ts

/-- The texts of the members of an object. -/
def printMembers (sp : Spelling) (style : Style) (level : Nat) :
    List (String × Tree) → List (List Char)
  | [] => []
  | (name, t) :: ms =>
    (sp.string name ++ style.colon ++ t.print sp style level) ::
      printMembers sp style level ms

end

/-- The text of a tree. -/
def text (t : Tree) (sp : Spelling) (style : Style) : String :=
  String.ofList (t.print sp style 0)

end Tree

end DocQuery.Json
