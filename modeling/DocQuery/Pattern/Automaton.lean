import DocQuery.Pattern.Shape
import DocQuery.Text.Bytes
import Std.Data.HashMap

/-!
# The Size of Automata

A pattern is matched by two automata over bytes, one that reads forward and one that reads
backward.  Each is laid out in memory as a list of states, with every repetition written out,
and a pattern is refused if one of the two needs more than `maxBytes`.  This module counts
the memory without keeping the states.

A state takes 32 bytes.  A state that goes on to several others takes four bytes more for
each of them, and a state that tells ranges of bytes apart takes eight bytes for each range.
A `Plan` lays out a part of an automaton: it takes what has been laid out so far to what has
been laid out then, or fails if that is too much.

Sets of characters are laid out by their bytes, and states that do the same are shared as far
as a table of bounded size remembers them.

## Main definitions

- `Automaton.forwardSet`, `Automaton.backwardSet`: the states for a set of characters
- `Automaton.layout`: the states for a shape
- `Automaton.fits`: whether both automata of a pattern fit
-/

namespace DocQuery

open DocQuery.Text

namespace Automaton

/-- How much memory an automaton may take. -/
def maxBytes : Nat := 10485760

/-! ## Counting memory -/

/-- What has been laid out so far. -/
structure Memory where
  /-- The number of states, which is also the number of the next state -/
  states : Nat := 0
  /-- The bytes that states take beyond their fixed part -/
  extra : Nat := 0

/-- The bytes that have been laid out. -/
def Memory.bytes (m : Memory) : Nat := 32 * m.states + m.extra

/-- A way to lay out a part of an automaton. -/
abbrev Plan := StateT Memory Option

/-- Goes on from `m` unless that is too much. -/
def claim (m : Memory) : Option (Unit × Memory) := if m.bytes ≤ maxBytes then some ((), m) else none

/-- Lays out `count` states, without links between them that take memory. -/
def states (count : Nat) : Plan Unit := fun m => claim { m with states := m.states + count }

/-- Lays out one state that takes `extra` bytes beyond the fixed part, and gives its
number. -/
def state (extra : Nat) : Plan Nat := fun m =>
  (claim ⟨m.states + 1, m.extra + extra⟩).map fun (_, after) => (m.states, after)

/-- How an automaton goes on behind a part of it. -/
inductive Exit where
  /-- From a state with one successor -/
  | plain
  /-- From a state with any number of successors, each of which takes memory -/
  | fork
deriving DecidableEq, Repr

/-- Links what comes next to a part of an automaton. -/
def link (e : Exit) : Plan Unit := fun m =>
  match e with
  | .plain => some ((), m)
  | .fork => claim { m with extra := m.extra + 4 }

/-- Links `count` successors to a fork. -/
def branchOff (count : Nat) : Plan Unit := fun m => claim { m with extra := m.extra + 4 * count }

/-! ## Sharing states -/

/-- A hash of a list of numbers. -/
def hash (words : List Nat) : UInt64 :=
  words.foldl (fun h w => (h ^^^ w.toUInt64) * 1099511628211) 14695981039346656037

/-- States by a description of what they do.  Every description has one place, and a later
one takes the place of an earlier one. -/
abbrev Shared := Std.HashMap Nat (List Nat × Nat)

/-- The state described by `words`, which is laid out unless it is remembered.  There is room
for `places` states. -/
def share (places : Nat) (words : List Nat) (extra : Nat) (shared : Shared) :
    Plan (Nat × Shared) := do
  let place := (hash words).toNat % places
  match shared[place]? with
  | some (known, number) =>
    if known = words then return (number, shared)
    let number ← state extra
    return (number, shared.insert place (words, number))
  | none =>
    let number ← state extra
    return (number, shared.insert place (words, number))

/-! ## Sets of characters -/

/-- Joins sequences that begin with the same range of bytes. -/
def groupByFirst (seqs : List (List ByteRange)) : List (List (List ByteRange)) :=
  seqs.splitBy fun s t => s.head? == t.head?

/-- Lays out the state that tells the given sequences apart, behind the states for what
follows their first bytes.  All sequences lead to `target`; none is longer than `depth`. -/
def forwardState (target : Nat) :
    Nat → List (List ByteRange) → Shared → Plan (Nat × Shared)
  | 0, _, shared => return (target, shared)
  | depth + 1, seqs, shared => do
    match seqs with
    | [] :: _ => return (target, shared)
    | _ =>
      let groups := groupByFirst seqs
      let (words, shared) ← groups.foldlM (fun (words, shared) group => do
        let (next, shared) ← forwardState target depth (group.map List.tail) shared
        match group.head?.bind List.head? with
        | some range => return (next :: range.last :: range.first :: words, shared)
        | none => return (words, shared)) (([] : List Nat), shared)
      share 10000 words.reverse (8 * groups.length) shared

/-- Lays out a set of characters for reading forward. -/
def forwardSet (set : CodePointSet) : Plan Unit := do
  let target ← state 0
  let seqs := set.ranges.flatMap fun r => byteSequences r.1 r.2
  let _ ← forwardState target 5 seqs {}

/-- Lays out the states for one sequence of byte ranges that is read backward and leads to
`target`, and gives the first of them. -/
def backwardStates (target : Nat) (seq : List ByteRange) (shared : Shared) :
    Plan (Nat × Shared) :=
  seq.foldlM (fun (next, shared) range => share 1000 [next, range.first, range.last] 0 shared)
    (target, shared)

/-- Lays out a set of characters for reading backward. -/
def backwardSet (set : CodePointSet) : Plan Unit := do
  let _ ← state 0
  let target ← state 0
  let seqs := set.ranges.flatMap fun r => byteSequences r.1 r.2
  let _ ← seqs.foldlM (fun shared seq => do
    let (_, shared) ← backwardStates target seq shared
    branchOff 1
    return shared) ({} : Shared)

/-- Lays out a set of characters; within ASCII one state tells its members apart. -/
def oneOf (backward : Bool) (set : CodePointSet) : Plan Exit := do
  if set.isAscii then
    let _ ← state 0
    let _ ← state (8 * set.ranges.length)
  else if backward then backwardSet set
  else forwardSet set
  return .plain

/-! ## Texts -/

/-- The bytes of a text, in the order in which they are read. -/
def bytesOfText (backward : Bool) (cs : List Char) : List Nat :=
  let bytes := cs.flatMap bytesOf
  if backward then bytes.reverse else bytes

/-- Cuts a list of texts at the empty ones. -/
def splitAtEmpty : List (List Nat) → List (List (List Nat))
  | [] => [[]]
  | [] :: ts => [] :: splitAtEmpty ts
  | t :: ts =>
    match splitAtEmpty ts with
    | chunk :: chunks => (t :: chunk) :: chunks
    | [] => [[t]]

/-- Cuts a list of texts at the empty ones, where several empty ones in front count once. -/
def cutAtEmpty : List (List Nat) → List (List (List Nat))
  | [] :: [] :: ts => cutAtEmpty ([] :: ts)
  | ts => splitAtEmpty ts

/-- What follows `byte` in the texts that begin with it. -/
def behind (byte : Nat) (texts : List (List Nat)) : List (List Nat) :=
  texts.filterMap fun
    | b :: rest => if b = byte then some rest else none
    | [] => none

/-- Lays out a choice of texts, which share what they begin with.  A text that ends where
others go on keeps those before it apart from those behind it.  The first number bounds the
length of the texts. -/
def choiceOfTexts : Nat → List (List Nat) → Plan Unit
  | 0, _ => return ()
  | depth + 1, texts => do
    let chunks := cutAtEmpty texts
    let used ← chunks.foldlM (fun used chunk => do
      let firsts := (chunk.filterMap List.head?).eraseDups
      firsts.forM fun byte => do
        let rest := behind byte chunk
        if rest.all List.isEmpty then return () else choiceOfTexts depth rest
      match firsts with
      | [] => return used
      | [_] => do
        let _ ← state 0
        return used + 1
      | _ => do
        let _ ← state (8 * firsts.length)
        return used + 1) 0
    let _ ← state (4 * (used + chunks.length - 1))

/-! ## Shapes -/

/-- Lays out several parts, one behind the other. -/
def chain : List (Plan Exit) → Plan Exit
  | [] => do
    let _ ← state 0
    return .plain
  | [p] => p
  | p :: ps => do
    let e ← p
    link e
    chain ps

/-- Lays out a part `count` more times, behind what ends at `e`. -/
def copiesBehind (p : Plan Exit) : (count : Nat) → (e : Exit) → Memory → Option (Exit × Memory)
  | 0, e, m => some (e, m)
  | count + 1, e, m =>
    match link e m with
    | none => none
    | some (_, m) =>
      match p m with
      | none => none
      | some (e, m) => copiesBehind p count e m

/-- Lays out a part `count` times. -/
def copies (p : Plan Exit) : (count : Nat) → Plan Exit
  | 0 => chain []
  | count + 1 => fun m =>
    match p m with
    | none => none
    | some (e, m) => copiesBehind p count e m

/-- Lays out a part `count` more times, each of which may be left out together with those
behind it. -/
def optionsBehind (p : Plan Exit) : (count : Nat) → (e : Exit) → Memory → Option (Exit × Memory)
  | 0, e, m => some (e, m)
  | count + 1, e, m =>
    match (do let _ ← state 0; link e; branchOff 2 : Plan Unit) m with
    | none => none
    | some (_, m) =>
      match p m with
      | none => none
      | some (e, m) => optionsBehind p count e m

/-- Lays out a part that may be left out. -/
def optional (p : Plan Exit) : Plan Exit := do
  states 1
  branchOff 2
  let e ← p
  link e
  states 1
  return .plain

/-- Lays out a part any number of times, but at least `least` times. -/
def unbounded (p : Plan Exit) (neverEmpty : Bool) : (least : Nat) → Plan Exit
  | 0 => do
    if neverEmpty then
      let _ ← state 0
      let e ← p
      branchOff 1
      link e
      return .fork
    else
      let e ← p
      link e
      states 3
      branchOff 4
      return .plain
  | least + 1 => do
    let e ← copies p (least + 1)
    link e
    let _ ← state 0
    branchOff 1
    return .fork

/-- Lays out a part between `least` and `most` times. -/
def bounded (p : Plan Exit) (least most : Nat) : Plan Exit := do
  let e ← copies p least
  let _ ← state 0
  let e ← optionsBehind p (most - least) e
  link e
  return .plain

/-- Lays out a repetition. -/
def repetition (p : Plan Exit) (neverEmpty : Bool) (least : Nat) (most : Option Nat) :
    Plan Exit :=
  match most with
  | none => unbounded p neverEmpty least
  | some most =>
    if least = 0 ∧ most = 1 then optional p
    else if least = most then copies p least
    else bounded p least most

/-- Lays out a choice.  The states that the branches start from and lead to stand behind the
second branch. -/
def choice (ps : List (Plan Exit)) : Plan Exit := do
  let branch (p : Plan Exit) : Plan Unit := do
    let e ← p
    link e
  (ps.take 2).forM branch
  states 2
  (ps.drop 2).forM branch
  branchOff ps.length
  return .plain

mutual

/-- Lays out a shape.  Groups take states only where the automaton reads forward. -/
def layout (backward : Bool) : Shape → Plan Exit
  | .empty => chain []
  | .text cs => do
    states (bytesOfText backward cs).length
    return .plain
  | .one set => oneOf backward set
  | .assertion _ => chain []
  | .group _ s =>
    if backward then layout backward s
    else do
      states 1
      let e ← layout backward s
      link e
      states 1
      return .plain
  | .repetition s least most _ => repetition (layout backward s) s.traits.neverEmpty least most
  | .sequence ss =>
    let ps := layoutAll backward ss
    chain (if backward then ps.reverse else ps)
  | .choice ss =>
    match ss.mapM Shape.text? with
    | some texts => do
      let texts := texts.map (bytesOfText backward)
      let _ ← state 0
      choiceOfTexts ((texts.map List.length).foldl max 0 + 1) texts
      return .plain
    | none => choice (layoutAll backward ss)

/-- Lays out several shapes. -/
def layoutAll (backward : Bool) : List Shape → List (Plan Exit)
  | [] => []
  | s :: ss => layout backward s :: layoutAll backward ss

end

/-! ## Whole automata -/

/-- Lays out the whole automaton for a shape: what goes before a match that may begin anywhere,
the shape itself as the group that is the match, and the state that ends a match. -/
def whole (backward : Bool) (s : Shape) : Plan Unit := do
  let bound := if backward then s.traits.atEnd else s.traits.atStart
  if bound then states 1
  else
    let _ ← state 8
    states 1
    let _ ← state 8
  if backward then
    let e ← layout backward s
    link e
  else
    let e ← layout backward (.group 0 s)
    link e
  states 1

/-- Whether both automata of a pattern fit into memory. -/
def fits (p : Pattern) : Bool :=
  let s := Shape.ofPattern p
  (whole false s {}).isSome && (whole true s {}).isSome

end Automaton

end DocQuery
