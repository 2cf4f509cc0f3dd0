import DocQuery.Decimal.Reading
import DocQuery.Path.Rule
import DocQuery.Path.Segment

/-!
# From Paths to Segments

Each fragment of a path becomes a segment, according to the rule that fits it.

## Main definitions

- `segment`: the segment of a fragment
- `parse`: the segments of a path
- `compile`: the segments of a path, all of which must be understood
- `explain`: a table of the fragments of a path and their kinds
-/

namespace DocQuery.Path

open DocQuery.Text DocQuery.Decimal

/-! ## Parts of segments -/

/-- A name without quotes around it. -/
def unquote (name : List Char) : List Char := (stripEnds? '"' '"' name).getD name

/-- How many characters of a text belong to its first name: up to the first dot that is not
inside quotes. -/
def firstNameLength (cs : List Char) : Nat :=
  max (scanName cs) (cs.takeWhile (· != '.')).length

/-- The names in a row of names, without their quotes. -/
def splitNames (cs : List Char) : List String :=
  let n := firstNameLength cs
  let name := String.ofList (unquote (cs.take n))
  match _h : cs.drop n with
  | '.' :: rest => name :: splitNames rest
  | _ => [name]
termination_by cs.length
decreasing_by
  have := congrArg List.length _h
  simp at this
  omega

/-- The expression in a filter: without the brackets around it and the question marks in
front. -/
def filterBody (fragment : List Char) : List Char :=
  let trimmed := trim fragment
  let inner := (stripEnds? '[' ']' trimmed).getD trimmed
  (inner.dropWhile isSpace).dropWhile (· == '?')

/-- The piece written as `cs`.  A bound that is no number is taken as absent, an index that is
none is left out. -/
def slicePiece? (cs : List Char) : Option SlicePiece :=
  match cutFirst? ':' cs with
  | some (start, stop) => some (.range (readInt64? start) (readInt64? stop))
  | none => (readInt64? cs).map .index

/-- The pieces of a list with commas between them. -/
def slicePieces (cs : List Char) : List SlicePiece := (splitAt ',' cs).filterMap slicePiece?

/-- The segment for what stands between brackets. -/
def ArrayForm.segment : ArrayForm → Segment
  | clause text => .filter (String.ofList (text.dropWhile (· == '?')))
  | slices text => .array (.slices (slicePieces text))
  | all => .array .all
  | key text => .array (.key (String.ofList text))

/-! ## Segments -/

/-- The segment of a fragment. -/
def segmentOf (fragment : List Char) : Segment :=
  match classify fragment with
  | .plain => .plain (splitNames fragment)
  | .glob => .glob (String.ofList fragment)
  | .filter => .filter (String.ofList (filterBody fragment))
  | .descendant =>
    match fragment.dropWhile (· == '.') with
    | [] => .descendant none
    | names => .descendant (some (splitNames names))
  | .array =>
    match ArrayForm.ofBracket? fragment with
    | some form => form.segment
    | none => .unrecognized (String.ofList fragment)
  | .unrecognized => .unrecognized (String.ofList fragment)

/-- The segment of a fragment. -/
def segment (fragment : String) : Segment := segmentOf fragment.toList

/-- The segments of a path. -/
def parse (path : String) : List Segment := (split path).map segment

/-- The fragment that no rule fits, if the segment is one. -/
def Segment.unrecognized? : Segment → Option String
  | unrecognized fragment => some fragment
  | _ => none

/-- The segments of a path, or an error for the first fragment that no rule fits. -/
def compile (path : String) : Except QueryError (List Segment) :=
  let segments := parse path
  match segments.findSome? Segment.unrecognized? with
  | some fragment => .error (.unrecognizedSegment path fragment)
  | none => .ok segments

/-- `s` with blanks behind it, up to `width` characters. -/
def padRight (width : Nat) (s : String) : String :=
  s ++ String.ofList (List.replicate (width - s.length) ' ')

/-- One line for each fragment of a path: its kind, and the fragment. -/
def explain (path : String) : Except QueryError String := do
  let _ ← compile path
  return String.join ((split path).map fun fragment =>
    padRight 12 (classify fragment.toList).name ++ " " ++ fragment ++ "\n")

end DocQuery.Path
