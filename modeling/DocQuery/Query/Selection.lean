import DocQuery.Path.Segment
import DocQuery.Pattern.Reader
import DocQuery.Store.Value
import DocQuery.Text.Cut

/-!
# Selecting Children

The children of a container are selected by their places or by their keys.

A list of indices and ranges picks elements in the order in which its pieces are written, and
an element may be picked more than once.  Negative numbers count from the end.  The bounds of
a range are brought into the list; a single index has to lie in it.  From an empty list
nothing is picked, whatever the pieces.

In a glob a star stands for a run of word characters, which may be empty, and every other
character for itself.  A glob is written as a pattern between anchors, which occurs in a key if
the glob fits all of it.  Like every pattern it is read only if its automata fit into memory.

## Main definitions

- `Slice.select`: the elements that a list of pieces selects
- `Glob.source`, `Glob.compile?`: the pattern for a glob, as it is written and as it is read
- `Store.matchKeys`: the children whose keys a pattern occurs in
-/

/-! ## By place -/

namespace DocQuery.Slice

open DocQuery.Path

variable {α : Type}

/-- The position that a number means in a list of `length` elements; before the start of the
list every position is the first. -/
def resolve (length : Nat) (n : Int64) : Nat :=
  (if n.toInt < 0 then length + n.toInt else n.toInt).toNat

/-- The elements that one piece picks. -/
def pick (items : List α) : SlicePiece → Except QueryError (List α)
  | .index n =>
    match items[resolve items.length n]? with
    | some item => .ok [item]
    | none => .error (.indexOutOfRange n.toInt items.length)
  | .range start stop =>
    let first := (start.map (resolve items.length)).getD 0
    let last := (stop.map (resolve items.length)).getD items.length
    .ok ((items.take last).drop first)

/-- The elements that all pieces pick, one after the other. -/
def pickAll (items : List α) : List SlicePiece → Except QueryError (List α)
  | [] => .ok []
  | piece :: pieces => do
    let picked ← pick items piece
    let more ← pickAll items pieces
    return picked ++ more

/-- The elements that a list of pieces selects. -/
def select (items : List α) (pieces : List SlicePiece) : Except QueryError (List α) :=
  if items.isEmpty then .ok [] else pickAll items pieces

theorem resolve_of_nonneg {length : Nat} {n : Int64} (h : 0 ≤ n.toInt) :
    resolve length n = n.toInt.toNat := by
  simp [resolve, Int.not_lt.mpr h]

theorem resolve_of_neg {length : Nat} {n : Int64} (h : n.toInt < 0) :
    resolve length n = (length + n.toInt).toNat := by
  simp [resolve, h]

end DocQuery.Slice

/-! ## By key -/

namespace DocQuery

open DocQuery.Text

namespace Glob

/-- Whether `c` means something in patterns, which a backslash in front takes away. -/
def isMeta (c : Char) : Bool := c ∈ "\\.+*?()|[]\x7b\x7d^$#&-~".toList

/-- A character, as it is written in a pattern to stand for itself. -/
def escape (c : Char) : List Char := if isMeta c then ['\\', c] else [c]

/-- What a pattern has for a star. -/
def wordRun : List Char := ['\\', 'w', '*']

/-- The pattern for a glob, as it is written. -/
def source (pattern : List Char) : List Char :=
  '^' :: (join wordRun ((splitAt '*' pattern).map fun part => part.flatMap escape) ++ ['$'])

/-- The pattern for a glob, unless it is too large. -/
def compile? (pattern : String) : Option Pattern := Pattern.read? (source pattern.toList)

end Glob

/-- The children of a value whose keys a pattern occurs in. -/
def Store.matchKeys (s : Store) (p : Pattern) (v : Value) : List Value :=
  ((s.entries v).filter fun e => p.occursIn e.1.toList).map Prod.snd

end DocQuery
