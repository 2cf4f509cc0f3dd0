import DocQuery.Pattern.Flags
import DocQuery.Pattern.NamedSet

/-!
# Escapes

What a backslash announces: a character with no special meaning, a control character, a
character by its number, a class such as digits, a named property, or an assertion.

References to groups are no patterns.  Every mark of ASCII may be escaped, except angle
brackets, which mean the ends of words; letters without a meaning may not.
-/

namespace DocQuery.Pattern

open DocQuery.Text

/-- What an escape stands for. -/
inductive Escape where
  | literal (c : Char)
  /-- One character, by a number of two digits, which is also the number of a byte -/
  | byte (c : Char)
  | set (s : CodePointSet)
  /-- A condition on a place -/
  | assertion (a : Assertion)

namespace Escape

/-- The character that an escape stands for, if it is one. -/
def character? : Escape → Option Char
  | literal c | byte c => some c
  | _ => none

/-- Whether `c` is a hexadecimal digit. -/
def isHexDigit (c : Char) : Bool := c.isDigit || ('a' ≤ c && c ≤ 'f') || ('A' ≤ c && c ≤ 'F')

/-- The value of a hexadecimal digit. -/
def hexDigit (c : Char) : Nat :=
  if c.isDigit then c.toNat - 48
  else if 'a' ≤ c then c.toNat - 87
  else c.toNat - 55

/-- The value of a run of hexadecimal digits. -/
def hexValue (cs : List Char) : Nat := cs.foldl (fun n c => 16 * n + hexDigit c) 0

/-- The character with the given number, if there is one. -/
def numbered? (n : Nat) : Option Char := if n.isValidChar then some (Char.ofNat n) else none

/-- Takes exactly `n` hexadecimal digits. -/
def takeHex (f : Flags) : Nat → List Char → Option (List Char × List Char)
  | 0, cs => some ([], cs)
  | _ + 1, [] => none
  | n + 1, c :: rest =>
    if isHexDigit c then (takeHex f n (f.skip rest)).map fun (ds, left) => (c :: ds, left)
    else none

/-- Reads a number of exactly `digits` digits, or of any length in braces. -/
def readHex (f : Flags) (digits : Nat) (cs : List Char) : Option (Escape × List Char) :=
  match f.skip cs with
  | '{' :: rest =>
    match f.takeWhile (· != '}') rest with
    | (ds, _ :: left) =>
      if ds.isEmpty || !ds.all isHexDigit then none
      else (numbered? (hexValue ds)).map fun c => (literal c, f.skip left)
    | (_, []) => none
  | cs =>
    (takeHex f digits cs).bind fun (ds, left) =>
      (numbered? (hexValue ds)).map fun c => (if digits = 2 then byte c else literal c, left)

/-- Reads the name of a property: one letter, or a name in braces. -/
def readProperty (f : Flags) (negated : Bool) (cs : List Char) : Option (Escape × List Char) :=
  let found (name left : List Char) : Option (Escape × List Char) :=
    if !f.unicode then none
    else (NamedSet.property? name).map fun s =>
      (Escape.set ((f.foldCase s).negateIf negated), left)
  match f.skip cs with
  | [] => none
  | '{' :: rest =>
    match f.takeWhile (· != '}') rest with
    | (name, _ :: left) => found name left
    | (_, []) => none
  | c :: rest => if c = '\\' then none else found [c] (f.skip rest)

/-- The class of digits, white space or word characters. -/
def shorthand? (f : Flags) (c : Char) : Option CodePointSet :=
  let pick (wide narrow : CodePointSet) (negated : Bool) : Option CodePointSet :=
    f.checked? ((if f.unicode then wide else narrow).negateIf negated)
  match c with
  | 'd' => pick digit NamedSet.asciiDigit false
  | 'D' => pick digit NamedSet.asciiDigit true
  | 's' => pick Property.whiteSpace NamedSet.asciiSpace false
  | 'S' => pick Property.whiteSpace NamedSet.asciiSpace true
  | 'w' => pick word NamedSet.asciiWord false
  | 'W' => pick word NamedSet.asciiWord true
  | _ => none

/-- The kind of word boundary that goes by `name`. -/
def boundary? (name : List Char) : Option BoundaryKind :=
  match String.ofList name with
  | "start" => some .start
  | "end" => some .finish
  | "start-half" => some .startHalf
  | "end-half" => some .finishHalf
  | _ => none

/-- Reads what follows `\b`.  A name in braces gives the kind of the boundary; braces that
hold something else are left for a repetition. -/
def readBoundary (f : Flags) (cs : List Char) : Option (Escape × List Char) :=
  let isNameChar (c : Char) : Bool := c.isAlpha || c == '-'
  let plain := (assertion (.boundary .either (!f.unicode)), cs)
  match cs with
  | '{' :: rest =>
    match f.skip rest with
    | [] => none
    | c :: rest =>
      if !isNameChar c then some plain
      else
        match f.takeWhile isNameChar (c :: rest) with
        | (name, '}' :: left) =>
          (boundary? name).map fun kind => (assertion (.boundary kind (!f.unicode)), left)
        | _ => none
  | _ => some plain

/-- The control character that a letter stands for. -/
def control? : Char → Option Char
  | 'a' => some '\x07'
  | 'f' => some '\x0c'
  | 't' => some '\t'
  | 'n' => some '\n'
  | 'r' => some '\r'
  | 'v' => some '\x0b'
  | _ => none

/-- The condition that a letter or a bracket stands for. -/
def assertion? (f : Flags) : Char → Option Assertion
  | 'A' => some .textStart
  | 'z' => some .textEnd
  | 'B' => some (.boundary .neither (!f.unicode))
  | '<' => some (.boundary .start (!f.unicode))
  | '>' => some (.boundary .finish (!f.unicode))
  | _ => none

/-- Whether `c` stands for itself behind a backslash. -/
def isMark (c : Char) : Bool := c.toNat < 128 && !c.isAlphanum && c != '<' && c != '>'

/-- Reads what stands behind a backslash. -/
def read (f : Flags) : List Char → Option (Escape × List Char)
  | [] => none
  | c :: rest =>
    match c with
    | 'x' => readHex f 2 rest
    | 'u' => readHex f 4 rest
    | 'U' => readHex f 8 rest
    | 'p' => readProperty f false rest
    | 'P' => readProperty f true rest
    | 'b' => readBoundary f rest
    | _ =>
      if isMark c then some (literal c, rest)
      else
        match shorthand? f c, control? c, assertion? f c with
        | some s, _, _ => some (set s, rest)
        | _, some d, _ => some (literal d, rest)
        | _, _, some a => some (assertion a, rest)
        | none, none, none => none

end Escape

end DocQuery.Pattern
