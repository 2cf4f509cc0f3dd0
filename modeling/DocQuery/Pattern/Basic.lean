import DocQuery.Text.Classes

/-!
# Patterns

A pattern describes texts: single characters from a set, one pattern after another, a choice
of two, a repetition, and assertions about the place between two characters.

`Pattern.Matches` says which stretches of a text a pattern covers.  It is the meaning that the
matcher in `DocQuery.Pattern.Matching` computes.

## Main definitions

- `Assertion.holds`: what an assertion asks of the characters before and after a place
- `Pattern`: the patterns themselves
- `Pattern.Matches`: the stretches that a pattern covers
-/

namespace DocQuery

open DocQuery.Text

/-- Where a word boundary may lie. -/
inductive BoundaryKind where
  /-- Between a word character and something else -/
  | either
  /-- Anywhere but at a boundary -/
  | neither
  /-- Before the first character of a word -/
  | start
  /-- After the last character of a word -/
  | finish
  /-- No word character before -/
  | startHalf
  /-- No word character after -/
  | finishHalf
deriving DecidableEq, Repr

/-- A condition on the place between two characters. -/
inductive Assertion where
  /-- At the start of the text -/
  | textStart
  /-- At the end of the text -/
  | textEnd
  /-- At the start of a line; `crlf` if a carriage return ends lines as well -/
  | lineStart (crlf : Bool)
  /-- At the end of a line -/
  | lineEnd (crlf : Bool)
  /-- At a word boundary; `ascii` if only characters of ASCII make up words -/
  | boundary (kind : BoundaryKind) (ascii : Bool)
deriving DecidableEq, Repr

namespace Assertion

/-- Whether there is a character and it belongs to a word. -/
def isWordAt (ascii : Bool) (c : Option Char) : Bool :=
  c.any fun c => if ascii then c.isAlphanum || c == '_' else isWord c

/-- Whether the assertion holds between the characters `before` and `after`. -/
def holds (before after : Option Char) : Assertion → Bool
  | textStart => before.isNone
  | textEnd => after.isNone
  | lineStart false => before.all (· == '\n')
  | lineStart true =>
    before.all (· == '\n') || (before == some '\r' && after != some '\n')
  | lineEnd false => after.all (· == '\n')
  | lineEnd true =>
    after.all (· == '\r') || (after == some '\n' && before != some '\r')
  | boundary kind ascii =>
    let left := isWordAt ascii before
    let right := isWordAt ascii after
    match kind with
    | .either => left != right
    | .neither => left == right
    | .start => !left && right
    | .finish => left && !right
    | .startHalf => !left
    | .finishHalf => !right

end Assertion

/-- A pattern for texts. -/
inductive Pattern where
  | empty
  | one (set : CodePointSet)
  /-- The empty text at a place where an assertion holds -/
  | assertion (a : Assertion)
  /-- A pattern in parentheses, with its number if groups of its kind are counted -/
  | group (number : Option Nat) (p : Pattern)
  /-- One pattern after another -/
  | concat (p q : Pattern)
  /-- One of two patterns -/
  | choice (p q : Pattern)
  /-- A pattern at least `least` times, and at most `most` times if that is given; `lazy` if
  it prefers to be short, which does not change what it covers -/
  | repetition (p : Pattern) (least : Nat) (most : Option Nat) (lazy : Bool)

namespace Pattern

/-- The character before place `i`. -/
def before (text : Array Char) (i : Nat) : Option Char := if i = 0 then none else text[i - 1]?

/-- `p` covers the stretch of `text` from `i` to `j`. -/
inductive Matches (text : Array Char) : Pattern → Nat → Nat → Prop where
  | empty (i : Nat) : Matches text .empty i i
  | one {set : CodePointSet} {i : Nat} {c : Char} (at_i : text[i]? = some c)
      (mem : set.contains c = true) :
      Matches text (.one set) i (i + 1)
  | assertion {a : Assertion} {i : Nat} (holds : a.holds (before text i) text[i]? = true) :
      Matches text (.assertion a) i i
  /-- What the pattern in parentheses covers. -/
  | group {number : Option Nat} {p : Pattern} {i j : Nat} (h : Matches text p i j) :
      Matches text (.group number p) i j
  | concat {p q : Pattern} {i j k : Nat} (left : Matches text p i j) (right : Matches text q j k) :
      Matches text (.concat p q) i k
  | left {p q : Pattern} {i j : Nat} (h : Matches text p i j) : Matches text (.choice p q) i j
  | right {p q : Pattern} {i j : Nat} (h : Matches text q i j) : Matches text (.choice p q) i j
  /-- A repetition that is not needed. -/
  | done {p : Pattern} {most : Option Nat} {lazy : Bool} (i : Nat) :
      Matches text (.repetition p 0 most lazy) i i
  /-- One repetition that has to be there, and the others. -/
  | again {p : Pattern} {least : Nat} {most : Option Nat} {lazy : Bool} {i j k : Nat}
      (room : most ≠ some 0)
      (first : Matches text p i j)
      (others : Matches text (.repetition p (least - 1) (most.map (· - 1)) lazy) j k) :
      Matches text (.repetition p least most lazy) i k

/-- The pattern for all of `ps` in a row. -/
def concatAll (ps : List Pattern) : Pattern :=
  match ps with
  | [] => empty
  | [p] => p
  | p :: ps => concat p (concatAll ps)

/-- The pattern for any one of `p` and `ps`. -/
def choiceOf (p : Pattern) : List Pattern → Pattern
  | [] => p
  | q :: qs => choice p (choiceOf q qs)

end Pattern

end DocQuery
