import DocQuery.Pattern.Automaton
import DocQuery.Pattern.Bracket
import DocQuery.Pattern.Matching

/-!
# Reading Patterns

Patterns are read from left to right.  The reader keeps the parts read so far of the current
branch, the branches before it, and for every open group what was read outside it.

A pattern must not nest more than 250 levels deep, and the automata that match it must fit
into memory.

## Main definitions

- `Reader.step`: reads one construct
- `read?`: the pattern that a text stands for
- `fullMatch?`: whether a pattern covers a whole text
-/

namespace DocQuery.Pattern

open DocQuery.Text

/-- What has been read of a branch. -/
inductive Piece where
  /-- A pattern, and how deeply it is nested -/
  | part (p : Pattern) (depth : Nat)
  /-- A change of flags, which covers nothing and cannot be repeated -/
  | flags

namespace Piece

/-- The pattern of a piece. -/
def pattern : Piece → Pattern
  | part p _ => p
  | flags => .empty

/-- The nesting depth of a piece. -/
def depth : Piece → Nat
  | part _ d => d
  | flags => 0

end Piece

/-- What was read outside an open group. -/
structure Group where
  /-- The number of the group, if it is counted -/
  number : Option Nat
  /-- The pieces of the current branch, last first -/
  pieces : List Piece
  /-- The branches before it, last first -/
  branches : List (Pattern × Nat)
  /-- The flags that come back when the group closes -/
  flags : Flags

/-- The state of reading. -/
structure Reader where
  /-- How the next construct is read -/
  flags : Flags := {}
  /-- The pieces of the current branch, last first -/
  pieces : List Piece := []
  /-- The branches before it, last first -/
  branches : List (Pattern × Nat) := []
  /-- The groups that are open, innermost first -/
  groups : List Group := []
  /-- The names that groups have been given -/
  names : List (List Char) := []
  /-- How many counted groups there have been -/
  counted : Nat := 0

namespace Reader

/-- The nesting depth of several things side by side; a single one adds nothing. -/
def depthOf : List Nat → Nat
  | [] => 0
  | [d] => d
  | ds => ds.foldl max 0 + 1

/-- The branch read so far. -/
def branch (r : Reader) : Pattern × Nat :=
  let pieces := r.pieces.reverse
  (concatAll (pieces.map Piece.pattern), depthOf (pieces.map Piece.depth))

/-- The choice of all branches read so far. -/
def choice (r : Reader) : Pattern × Nat :=
  match r.branches.reverse ++ [r.branch] with
  | [] => (.empty, 0)
  | b :: bs => (choiceOf b.1 (bs.map Prod.fst), depthOf (b.2 :: bs.map Prod.snd))

/-- The reader after one more piece. -/
def push (r : Reader) (piece : Piece) : Reader := { r with pieces := piece :: r.pieces }

/-- The reader after a pattern that holds no other. -/
def pushLeaf (r : Reader) (p : Pattern) : Reader := r.push (.part p 0)

/-- The reader after the start of a group with the given flags and the given number. -/
def openNumbered (r : Reader) (flags : Flags) (number : Option Nat) : Reader :=
  { r with
    flags := flags, pieces := [], branches := [],
    groups := ⟨number, r.pieces, r.branches, r.flags⟩ :: r.groups }

/-- The reader after the start of a group that is not counted. -/
def openGroup (r : Reader) (flags : Flags) : Reader := r.openNumbered flags none

/-- The reader after the start of a group that is counted. -/
def openCounted (r : Reader) : Reader :=
  { r with counted := r.counted + 1 }.openNumbered r.flags (some (r.counted + 1))

/-- The reader after the end of a group. -/
def closeGroup (r : Reader) : Option Reader :=
  match r.groups with
  | [] => none
  | g :: groups =>
    let (p, depth) := r.choice
    some { r with
      flags := g.flags, pieces := .part (.group g.number p) (depth + 1) :: g.pieces,
      branches := g.branches, groups := groups }

/-- The reader after a repetition of the last piece, and what is left to read.  A question
mark makes the repetition prefer to be short, or long if short is what it prefers already. -/
def «repeat» (r : Reader) (least : Nat) (most : Option Nat) (cs : List Char) :
    Option (Reader × List Char) :=
  let (turned, left) := match cs with
    | '?' :: rest => (true, rest)
    | cs => (false, cs)
  match r.pieces with
  | .part p depth :: pieces =>
    let repeated := Pattern.repetition p least most (r.flags.lazy != turned)
    some ({ r with pieces := .part repeated (depth + 1) :: pieces }, left)
  | _ => none

/-! ## Counts -/

/-- The largest count that can be written. -/
def maxCount : Nat := 4294967295

/-- Reads a count with white space around it; the count may be missing. -/
def readCount (f : Flags) (cs : List Char) : Option (Option Nat × List Char) :=
  let (digits, rest) := f.takeWhile Char.isDigit (cs.dropWhile isSpace)
  let rest := f.skip (rest.dropWhile isSpace)
  if digits.isEmpty then some (none, rest)
  else
    let n := Nat.ofDigitChars 10 digits 0
    if n ≤ maxCount then some (some n, rest) else none

/-- Reads the counts between braces, the closing one included. -/
def readCounts (f : Flags) (cs : List Char) : Option ((Nat × Option Nat) × List Char) := do
  let (least, cs) ← readCount f (f.skip cs)
  let least ← least
  match cs with
  | ',' :: cs =>
    match f.skip cs with
    | '}' :: rest => return ((least, none), rest)
    | cs =>
      let (most, cs) ← readCount f cs
      let most ← most
      match cs with
      | '}' :: rest => if least ≤ most then return ((least, some most), rest) else none
      | _ => none
  | '}' :: rest => return ((least, some least), rest)
  | _ => none

/-! ## Groups -/

/-- Whether `c` may stand in the name of a group. -/
def isGroupNameChar (first : Bool) (c : Char) : Bool :=
  if first then c == '_' || isAlphabetic c
  else c == '_' || c == '.' || c == '[' || c == ']' || isAlphanumeric c

/-- Whether `name` can name a group. -/
def isGroupName : List Char → Bool
  | [] => false
  | c :: cs => isGroupNameChar true c && cs.all (isGroupNameChar false)

/-- Reads the name of a group and the bracket behind it.  Every name is given once. -/
def readName (r : Reader) (cs : List Char) : Option (Reader × List Char) :=
  let name := cs.takeWhile (· != '>')
  match cs.dropWhile (· != '>') with
  | _ :: rest =>
    if isGroupName name && !r.names.contains name then
      some ({ r with names := name :: r.names }.openCounted, rest)
    else none
  | [] => none

/-- Reads what follows an opening parenthesis: a name, flags, or nothing special.
Looking ahead and behind are no patterns. -/
def readGroup (r : Reader) (cs : List Char) : Option (Reader × List Char) :=
  match r.flags.skip cs with
  | '?' :: '=' :: _ | '?' :: '!' :: _ | '?' :: '<' :: '=' :: _ | '?' :: '<' :: '!' :: _ => none
  | '?' :: 'P' :: '<' :: rest | '?' :: '<' :: rest => r.readName rest
  | '?' :: rest =>
    match r.flags.readLetters [] false rest with
    | some (f, _, ':' :: rest) => some (r.openGroup f, rest)
    | some (f, true, _ :: rest) => some ({ r with flags := f }.push .flags, rest)
    | _ => none
  | cs => some (r.openCounted, cs)

/-! ## Constructs -/

/-- Reads a construct that begins with `c`. -/
def step (r : Reader) (c : Char) (rest : List Char) : Option (Reader × List Char) :=
  let f := r.flags
  match c with
  | '(' => r.readGroup rest
  | ')' => r.closeGroup.map (·, rest)
  | '|' => some ({ r with branches := r.branch :: r.branches, pieces := [] }, rest)
  | '[' =>
    (Bracket.read f rest).map fun (part, left) =>
      (r.push (.part (.one part.set) (part.depth)), left)
  | '?' => r.repeat 0 (some 1) rest
  | '*' => r.repeat 0 none rest
  | '+' => r.repeat 1 none rest
  | '{' => (readCounts f rest).bind fun ((least, most), left) => r.repeat least most (f.skip left)
  | '.' => f.dot?.map fun s => (r.pushLeaf (.one s), rest)
  | '^' => some (r.pushLeaf (.assertion f.caret), rest)
  | '$' => some (r.pushLeaf (.assertion f.dollar), rest)
  | '\\' =>
    (Escape.read f rest).bind fun (e, left) =>
      match e with
      | .literal c => some (r.pushLeaf (.one (f.literal c)), left)
      | .byte c =>
        if f.unicode || c.toNat < 128 then some (r.pushLeaf (.one (f.literal c)), left) else none
      | .set s => some (r.pushLeaf (.one s), left)
      | .assertion a => some (r.pushLeaf (.assertion a), left)
  | c => some (r.pushLeaf (.one (f.literal c)), rest)

/-- Reads all constructs up to the end. -/
def run (r : Reader) (cs : List Char) : Option Reader :=
  match r.flags.skip cs with
  | [] => some r
  | c :: rest =>
    (r.step c rest).bind fun (r, left) =>
      if left.length < cs.length then r.run left else none
termination_by cs.length

/-- How deeply a pattern may nest. -/
def maxDepth : Nat := 250

/-- The pattern that has been read, if no group is open and it does not nest too deeply. -/
def finish (r : Reader) : Option Pattern :=
  let (p, depth) := r.choice
  if r.groups.isEmpty && depth ≤ maxDepth then some p else none

end Reader

/-- The pattern that `text` stands for, unless it is too large. -/
def read? (text : List Char) : Option Pattern :=
  ((({} : Reader).run text).bind Reader.finish).filter Automaton.fits

/-- The text of a pattern between anchors, as a group of its own. -/
def anchored (pattern : List Char) : List Char :=
  '^' :: '(' :: '?' :: ':' :: (pattern ++ [')', '$'])

/-- Whether the pattern written as `pattern`, put between anchors, occurs in `text`; `none` if
that is no pattern. -/
def fullMatch? (pattern text : String) : Option Bool :=
  (read? (anchored pattern.toList)).map fun p => p.occursIn text.toList

end DocQuery.Pattern
