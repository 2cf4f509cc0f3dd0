import DocQuery.Pattern.Basic

/-!
# Shapes of Patterns

One pattern can be written in many ways.  Before an automaton is laid out for it, a pattern is
brought into a shape that leaves out what makes no difference:

* groups that are not counted are dissolved, and what stands side by side is one sequence;
* neighbouring characters are one text, and the empty pattern is left out;
* a choice among characters is a set of characters, and what all branches of a choice begin
  with stands before the choice;
* what can only be empty is not repeated.

## Main definitions

- `Shape`: the shapes
- `Shape.inSequence`, `Shape.anyOf`, `Shape.repeated`: shapes put together
- `Shape.ofPattern`: the shape of a pattern
- `Shape.traits`: what can be told from a shape about the texts that it covers
-/

namespace DocQuery

open DocQuery.Text

/-- The shape of a pattern. -/
inductive Shape where
  /-- The empty text -/
  | empty
  /-- A text that stands for itself -/
  | text (cs : List Char)
  /-- One character of a set -/
  | one (set : CodePointSet)
  /-- The empty text at a place where an assertion holds -/
  | assertion (a : Assertion)
  /-- A counted group -/
  | group (number : Nat) (s : Shape)
  /-- A repetition -/
  | repetition (s : Shape) (least : Nat) (most : Option Nat) (lazy : Bool)
  /-- Two or more shapes in a row, none of them a sequence -/
  | sequence (parts : List Shape)
  /-- Two or more shapes to choose from, none of them a choice -/
  | choice (branches : List Shape)

namespace Shape

/-! ## Comparison -/

mutual

/-- Whether two shapes are the same. -/
def same : Shape → Shape → Bool
  | empty, empty => true
  | text cs, text ds => cs == ds
  | one s, one t => s == t
  | assertion a, assertion b => a == b
  | group m s, group n t => m == n && same s t
  | repetition s least most lazy, repetition t least' most' lazy' =>
    least == least' && most == most' && lazy == lazy' && same s t
  | sequence ss, sequence ts => sameAll ss ts
  | choice ss, choice ts => sameAll ss ts
  | _, _ => false

/-- Whether two lists of shapes are the same. -/
def sameAll : List Shape → List Shape → Bool
  | [], [] => true
  | s :: ss, t :: ts => same s t && sameAll ss ts
  | _, _ => false

end

mutual

/-- How many shapes a shape is put together from. -/
def weight : Shape → Nat
  | group _ s | repetition s _ _ _ => s.weight + 1
  | sequence ss | choice ss => weightAll ss + 1
  | _ => 1

/-- How many shapes a list of shapes is put together from. -/
def weightAll : List Shape → Nat
  | [] => 0
  | s :: ss => s.weight + weightAll ss

end

/-! ## Traits -/

/-- What can be told about the texts that a shape covers, without looking at any. -/
structure Traits where
  /-- All of them are empty. -/
  alwaysEmpty : Bool := false
  /-- No part of the shape that they need is an empty set of characters. -/
  possible : Bool := true
  /-- None of them is empty. -/
  neverEmpty : Bool := false
  /-- They stand at the start of the text. -/
  atStart : Bool := false
  /-- They stand at the end of the text. -/
  atEnd : Bool := false

namespace Traits

/-- Whether the first of several shapes in a row is bound to an end of the text, or the ones
before a bound one are always empty. -/
def isBound (atEdge : Traits → Bool) : List Traits → Bool
  | [] => false
  | t :: ts => atEdge t || (t.alwaysEmpty && isBound atEdge ts)

/-- The traits of a sequence. -/
def inSequence (ts : List Traits) : Traits where
  alwaysEmpty := ts.all alwaysEmpty
  possible := ts.all possible
  neverEmpty := ts.all possible && ts.any neverEmpty
  atStart := isBound atStart ts
  atEnd := isBound atEnd ts.reverse

/-- The traits of a choice. -/
def anyOf (ts : List Traits) : Traits where
  alwaysEmpty := ts.all alwaysEmpty
  possible := ts.all possible
  neverEmpty := ts.all neverEmpty
  atStart := ts.all atStart
  atEnd := ts.all atEnd

end Traits

mutual

/-- The traits of a shape. -/
def traits : Shape → Traits
  | empty => { alwaysEmpty := true }
  | text _ => { neverEmpty := true }
  | one set => { possible := set != .empty, neverEmpty := set != .empty }
  | assertion a =>
    { alwaysEmpty := true, atStart := a == .textStart, atEnd := a == .textEnd }
  | group _ s => s.traits
  | repetition s least _ _ =>
    let t := s.traits
    { t with
      neverEmpty := 0 < least && t.neverEmpty,
      atStart := 0 < least && t.atStart, atEnd := 0 < least && t.atEnd }
  | sequence ss => .inSequence (traitsAll ss)
  | choice ss => .anyOf (traitsAll ss)

/-- The traits of several shapes. -/
def traitsAll : List Shape → List Traits
  | [] => []
  | s :: ss => s.traits :: traitsAll ss

end

/-! ## Putting shapes together -/

/-- One character of a set, which is a text if there is only one. -/
def ofSet (set : CodePointSet) : Shape :=
  match set.single? with
  | some c => text [c]
  | none => one set

/-- The parts of a sequence. -/
def parts : Shape → List Shape
  | sequence ss => ss
  | s => [s]

/-- The branches of a choice. -/
def branches : Shape → List Shape
  | choice ss => ss
  | s => [s]

/-- Leaves out the empty shape and joins neighbouring texts. -/
def joinTexts : List Shape → List Shape
  | [] => []
  | empty :: ss => joinTexts ss
  | text cs :: ss =>
    match joinTexts ss with
    | text ds :: ts => text (cs ++ ds) :: ts
    | ts => text cs :: ts
  | s :: ss => s :: joinTexts ss

/-- Shapes in a row. -/
def inSequence (ss : List Shape) : Shape :=
  match joinTexts (ss.flatMap parts) with
  | [] => empty
  | [s] => s
  | ss => sequence ss

/-- A repetition.  What is always empty is needed at most once. -/
def repeated (s : Shape) (least : Nat) (most : Option Nat) (lazy : Bool) : Shape :=
  let (least, most) :=
    if s.traits.alwaysEmpty then (min least 1, some (most.elim 1 (min 1))) else (least, most)
  if least = 0 ∧ most = some 0 then empty
  else if least = 1 ∧ most = some 1 then s
  else repetition s least most lazy

/-- The character of a text that holds one. -/
def char? : Shape → Option Char
  | text [c] => some c
  | _ => none

/-- The characters of a text. -/
def text? : Shape → Option (List Char)
  | text cs => some cs
  | _ => none

/-- The set of a shape that is one. -/
def set? : Shape → Option CodePointSet
  | one set => some set
  | _ => none

/-- What two lists begin with. -/
def commonStart : List Shape → List Shape → List Shape
  | s :: ss, t :: ts => if same s t then s :: commonStart ss ts else []
  | _, _ => []

/-- What all of the given sequences begin with; nothing if one of them is no sequence. -/
def commonParts : List Shape → List Shape
  | [sequence ss] => ss
  | sequence ss :: rest => commonStart (commonParts rest) ss
  | _ => []

/-- A choice of two or more shapes.  The first number bounds their weight. -/
def anyOfFrom : Nat → List Shape → Shape
  | 0, ss => choice ss
  | fuel + 1, ss =>
    let ss := ss.flatMap branches
    match ss.mapM char?, ss.mapM set? with
    | some cs, _ => ofSet (.unionAll (cs.map .single))
    | _, some sets => ofSet (.unionAll sets)
    | none, none =>
      match commonParts ss with
      | [] => choice ss
      | start =>
        let rest := ss.map fun s => inSequence (s.parts.drop start.length)
        inSequence (start ++ [anyOfFrom fuel rest])

/-- A choice of shapes. -/
def anyOf : List Shape → Shape
  | [s] => s
  | ss => anyOfFrom (weightAll ss) ss

/-- The shapes of the branches of a pattern. -/
def branchesOf : Pattern → List Shape
  | .empty => [empty]
  | .one set => [ofSet set]
  | .assertion a => [assertion a]
  | .group none p => [anyOf (branchesOf p)]
  | .group (some n) p => [group n (anyOf (branchesOf p))]
  | .concat p q => [inSequence [anyOf (branchesOf p), anyOf (branchesOf q)]]
  | .choice p q => anyOf (branchesOf p) :: branchesOf q
  | .repetition p least most lazy => [repeated (anyOf (branchesOf p)) least most lazy]

/-- The shape of a pattern. -/
def ofPattern (p : Pattern) : Shape := anyOf (branchesOf p)

end Shape

end DocQuery
