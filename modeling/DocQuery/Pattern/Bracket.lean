import DocQuery.Pattern.Escape

/-!
# Bracket Expressions

A bracket expression lists characters, ranges, escapes, named sets and further brackets, and
may combine such lists by `&&`, `--` and `~~`, which group from the left.

Brackets are read with a stack: an open bracket or a pending operation waits on it until the
list to its right is complete.  Beside each set its nesting depth is kept.
-/

namespace DocQuery.Pattern

open DocQuery.Text

namespace Bracket

/-- A set, and how deeply it was nested. -/
structure Part where
  set : CodePointSet
  depth : Nat

/-- A list of items so far. -/
structure Union where
  /-- The characters of all items -/
  set : CodePointSet := .empty
  /-- How many items there are -/
  count : Nat := 0
  /-- The greatest depth of an item -/
  depth : Nat := 0

/-- The list with one more item. -/
def Union.push (u : Union) (s : CodePointSet) (depth : Nat := 0) : Union :=
  ⟨u.set.union s, u.count + 1, max u.depth depth⟩

/-- The list as one part; a single item needs no list. -/
def Union.part (u : Union) : Part := ⟨u.set, if u.count ≤ 1 then u.depth else u.depth + 1⟩

/-- The operations between two lists. -/
inductive Operation where
  /-- `&&` -/
  | intersection
  /-- `--` -/
  | difference
  /-- `~~` -/
  | symmetricDifference

/-- What waits for the list to its right. -/
inductive Frame where
  /-- A bracket inside the list `outer` -/
  | opened (outer : Union) (negated : Bool)
  /-- An operation with its left side -/
  | operation (op : Operation) (left : Part)

/-- The result of an operation; if case does not count, it does not on either side. -/
def Operation.apply (f : Flags) (op : Operation) (l r : Part) : Part :=
  let s := f.foldCase l.set
  let t := f.foldCase r.set
  let set := match op with
    | intersection => s.inter t
    | difference => s.diff t
    | symmetricDifference => s.symmDiff t
  ⟨set, max l.depth r.depth + 1⟩

/-- Completes an operation that waits on top of the stack. -/
def settle (f : Flags) (part : Part) : List Frame → Part × List Frame
  | .operation op left :: frames => (op.apply f left part, frames)
  | frames => (part, frames)

/-- Reads the start of a bracket: a negation, hyphens, or a closing bracket that stands for
itself. -/
def openBracket (f : Flags) (cs : List Char) : Option (Bool × Union × List Char) := do
  let (negated, cs) ← match f.skip cs with
    | '^' :: rest => some (true, f.skip rest)
    | cs => some (false, cs)
  let hyphen := f.literal '-'
  let closing := f.literal ']'
  let (hyphens, cs) := f.takeWhile (· == '-') cs
  let u := hyphens.foldl (fun u _ => Union.push u hyphen) ({} : Union)
  match cs with
  | [] => none
  | ']' :: rest =>
    if u.count = 0 then
      match f.skip rest with
      | [] => none
      | cs => some (negated, u.push closing, cs)
    else some (negated, u, cs)
  | _ => some (negated, u, cs)

/-- Reads the name of a set between `[:` and `:]`, behind the first bracket.  The set is
missing if it is no set of characters under these flags. -/
def readNamed (f : Flags) : List Char → Option (Option CodePointSet × List Char)
  | ':' :: cs =>
    let (negated, cs) := match cs with
      | '^' :: rest => (true, rest)
      | _ => (false, cs)
    match cs.dropWhile (· != ':') with
    | ':' :: ']' :: rest =>
      (NamedSet.posix? (String.ofList (cs.takeWhile (· != ':')))).map fun s =>
        (f.checked? ((f.foldCase s).negateIf negated), rest)
    | _ => none
  | _ => none

/-- Reads one item: an escape, or a character that stands for itself. -/
def readItem (f : Flags) : List Char → Option (Escape × List Char)
  | [] => none
  | '\\' :: rest => Escape.read f rest
  | c :: rest => some (.literal c, rest)

/-- The set for one character inside brackets.  Case is taken care of when the bracket
closes. -/
def single? (f : Flags) (c : Char) : Option CodePointSet :=
  if f.unicode || c.toNat < 128 then some (CodePointSet.single c) else none

/-- Reads a range or a single item. -/
def readRange (f : Flags) (cs : List Char) : Option (CodePointSet × List Char) := do
  let (first, cs) ← readItem f cs
  let cs := f.skip cs
  match cs with
  | [] => none
  | c :: rest =>
    let following := f.peek? rest
    if c ≠ '-' ∨ following = some ']' ∨ following = some '-' then
      match first with
      | .literal c | .byte c => (single? f c).map (·, cs)
      | .set s => some (s, cs)
      | .assertion _ => none
    else
      let (second, cs) ← readItem f (f.skip rest)
      match first.character?, second.character? with
      | some a, some b =>
        if a ≤ b ∧ (f.unicode ∨ b.toNat < 128) then some (CodePointSet.range a b, cs) else none
      | _, _ => none

/-- Reads the rest of a bracket expression, given what waits and the list so far. -/
def readFrom (f : Flags) (frames : List Frame) (u : Union) (cs : List Char) :
    Option (Part × List Char) :=
  match f.skip cs with
  | [] => none
  | c :: rest =>
    let goOn (frames : List Frame) (u : Union) (left : List Char) : Option (Part × List Char) :=
      if left.length < cs.length then readFrom f frames u left else none
    let push (op : Operation) (left : List Char) : Option (Part × List Char) :=
      let (part, frames) := settle f u.part frames
      goOn (.operation op part :: frames) {} left
    match c, rest with
    | '[', _ =>
      match readNamed f rest with
      | some (some s, left) => goOn frames (u.push s) left
      | some (none, _) => none
      | none =>
        (openBracket f rest).bind fun (negated, inner, left) =>
          goOn (.opened u negated :: frames) inner left
    | ']', _ =>
      match settle f u.part frames with
      | (part, .opened outer negated :: frames) =>
        (f.checked? ((f.foldCase part.set).negateIf negated)).bind fun s =>
          if frames.isEmpty then some (⟨s, part.depth + 1⟩, rest)
          else goOn frames (outer.push s (part.depth + 1)) rest
      | _ => none
    | '&', '&' :: left => push .intersection left
    | '-', '-' :: left => push .difference left
    | '~', '~' :: left => push .symmetricDifference left
    | _, _ => (readRange f (c :: rest)).bind fun (s, left) => goOn frames (u.push s) left
termination_by cs.length

/-- Reads a bracket expression behind its opening bracket. -/
def read (f : Flags) (cs : List Char) : Option (Part × List Char) :=
  (openBracket f cs).bind fun (negated, u, left) => readFrom f [.opened {} negated] u left

end Bracket

end DocQuery.Pattern
