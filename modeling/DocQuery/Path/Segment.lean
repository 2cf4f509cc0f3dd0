import DocQuery.Decimal.Reading

/-!
# Path Segments

A path is a row of segments.  Each segment takes the values found so far one step further:
along names, to the keys that fit a pattern, to everything below, into an array, or through a
filter.

A query fails when an index lies outside its array, or, where every fragment has to be
understood, when no rule fits a fragment.  A glob that is too large for the patterns stops the
whole program.

## Main definitions

- `SegmentKind`: the rules by which fragments are read
- `Segment`: a step of a path
- `QueryError`: why a query has no answer
-/

namespace DocQuery.Path

/-- The rules by which a fragment of a path can be read. -/
inductive SegmentKind where
  /-- Dotted names: `a.b.c`, `"na.me".x` -/
  | plain
  /-- A key with stars: `*_name` -/
  | glob
  /-- A clause in parentheses: `[?(@.v > 1)]` -/
  | filter
  /-- Two or three dots, and dotted names or nothing: `..name`, `...` -/
  | descendant
  /-- A bracketed selector: `[0]`, `[1:3,-1]`, `[*]`, `['key']` -/
  | array
  /-- No rule fits -/
  | unrecognized
deriving DecidableEq, Repr

namespace SegmentKind

/-- The order in which the rules are tried.  They overlap, so the first that fits counts. -/
def priority : List SegmentKind := [plain, glob, filter, descendant, array]

/-- How a kind is called. -/
def name : SegmentKind → String
  | plain => "plain"
  | glob => "glob"
  | filter => "filter"
  | descendant => "descendant"
  | array => "array"
  | unrecognized => "unrecognized"

/-- Every kind is tried, except the one for fragments that no rule fits. -/
theorem mem_priority (k : SegmentKind) : k ∈ priority ↔ k ≠ unrecognized := by
  cases k <;> decide

end SegmentKind

/-- One piece of a list of indices and ranges. -/
inductive SlicePiece where
  /-- A single element; a negative number counts from the end -/
  | index (n : Int64)
  /-- The elements from `start` up to, but not including, `stop` -/
  | range (start stop : Option Int64)
deriving DecidableEq

/-- What a bracket selects. -/
inductive Selector where
  /-- All children: `[*]` -/
  | all
  /-- Some elements, in the order written: `[0]`, `[:3]`, `[1:2,-1]` -/
  | slices (pieces : List SlicePiece)
  /-- The member with this key: `['name']` -/
  | key (name : String)
deriving DecidableEq

/-- A step of a path. -/
inductive Segment where
  /-- Names to walk along, without their quotes -/
  | plain (names : List String)
  /-- A key in which stars stand for runs of word characters -/
  | glob (pattern : String)
  | filter (expression : String)
  /-- A search through everything below; the names are walked from every container found -/
  | descendant (names : Option (List String))
  | array (selector : Selector)
  | unrecognized (fragment : String)
deriving DecidableEq

/-- The rule that a segment was read by. -/
def Segment.kind : Segment → SegmentKind
  | plain _ => .plain
  | glob _ => .glob
  | filter _ => .filter
  | descendant _ => .descendant
  | array _ => .array
  | unrecognized _ => .unrecognized

end DocQuery.Path

/-! ## Errors -/

namespace DocQuery

open DocQuery.Decimal

/-- Why a query has no answer. -/
inductive QueryError where
  /-- An index outside an array with `length` elements -/
  | indexOutOfRange (index : Int) (length : Nat)
  /-- A fragment of a path that no rule fits -/
  | unrecognizedSegment (path fragment : String)
  /-- A glob whose pattern takes too much memory.  Nobody is told: the program stops. -/
  | oversizedGlob (pattern : String)
deriving DecidableEq

namespace QueryError

/-- What an error reads like. -/
def message : QueryError → String
  | indexOutOfRange i n =>
    "Index " ++ String.ofList (intText i) ++ " out of range for array of length " ++
      String.ofList (natText n)
  | unrecognizedSegment path fragment =>
    "Path not found " ++ path ++ ". When processing this part " ++ fragment
  | oversizedGlob _ => "escaped glob pattern must compile: CompiledTooBig(10485760)"

/-- Whether the program stops, so that the error does not reach the caller. -/
def stops : QueryError → Bool
  | oversizedGlob _ => true
  | indexOutOfRange .. | unrecognizedSegment .. => false

end QueryError

end DocQuery
