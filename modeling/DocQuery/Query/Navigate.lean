import DocQuery.Path.Rule
import DocQuery.Store.Value

/-!
# Walking and Searching

A walk follows names from a value downwards.  An object looks a name up among its members, an
array reads a number as an index, and anything else ends the walk.  A missing member ends the
walk without a hit; an index outside the array is an error.  A walk that ends where it started is
no hit either.

A search visits every container that can be reached from its start, each one once.  It keeps
the containers still to be visited on a stack, and remembers which ones were ever put there.
The children of a container are put on the stack so that they come off in their order.  Without
names the search yields each container and the scalars in it.  With names it yields the hit of the
walk from each container; an index error is no hit here, because not every array below need be long
enough.

## Main definitions

- `Store.walk`, `Store.navigate`: the end of a walk, and its hit
- `Store.visit`: the containers below a start, in the order of the search
- `Store.descend`: the values that the search yields
-/

namespace DocQuery

open DocQuery.Decimal DocQuery.Path

namespace Store

/-! ## Walks -/

/-- The greatest index that can be written. -/
def maxIndex : Nat := UInt64.size - 1

/-- The index that a run of digits stands for.  One that is too large, or written in digits
of another script, counts as the greatest. -/
def readIndex (name : List Char) : Nat :=
  match readNat? name with
  | some n => min n maxIndex
  | none => maxIndex

/-- The error for an index outside an array; indices are reported as 64-bit integers. -/
def indexError (index length : Nat) : QueryError :=
  .indexOutOfRange (min (index : Int) Int64.maxValue.toInt) length

/-- One step along a name. -/
def stepName (s : Store) (v : Value) (name : String) : Except QueryError (Option Value) :=
  match v with
  | .container h =>
    match s.cell h with
    | .object members => .ok (Json.Members.get? members name)
    | .array items =>
      if isInteger name.toList then
        let index := readIndex name.toList
        match items[index]? with
        | some item => .ok (some item)
        | none => .error (indexError index items.length)
      else .ok none
  | _ => .ok none

/-- The value at the end of a walk. -/
def walk (s : Store) (v : Value) : List String → Except QueryError (Option Value)
  | [] => .ok (some v)
  | name :: names => do
    match ← s.stepName v name with
    | some next => s.walk next names
    | none => .ok none

/-- The hit of a walk: its end, unless that is where it started. -/
def navigate (s : Store) (names : List String) (v : Value) : Except QueryError (Option Value) := do
  let hit ← s.walk v names
  return hit.filter fun w => !w.same v

/-- A step from a value that is no container has no hit. -/
theorem stepName_of_not_container {s : Store} {v : Value} (h : v.isContainer = false)
    (name : String) : s.stepName v name = .ok none := by
  cases v <;> simp_all [stepName, Value.isContainer, Value.handle?]

/-! ## Searches -/

/-- Puts the containers among `children` on the stack that were never there: the stack and all
containers that have been on it. -/
def schedule (s : Store) (children : List Value) (state : List Handle × List Handle) :
    List Handle × List Handle :=
  children.foldr (fun child state =>
    match child with
    | .container h =>
      if h.index < s.size ∧ state.2.contains h = false then (h :: state.1, h :: state.2) else state
    | _ => state) state

/-- What is put on the stack was not visited before. -/
theorem schedule_unvisited_le (s : Store) (children : List Value)
    (state : List Handle × List Handle) :
    s.unvisited (s.schedule children state).2 + (s.schedule children state).1.length ≤
      s.unvisited state.2 + state.1.length := by
  induction children with
  | nil => exact Nat.le_refl _
  | cons child children ih =>
    have hcons : s.schedule (child :: children) state =
        (match child with
        | .container h =>
          if h.index < s.size ∧ (s.schedule children state).2.contains h = false then
            (h :: (s.schedule children state).1, h :: (s.schedule children state).2)
          else s.schedule children state
        | _ => s.schedule children state) := rfl
    rw [hcons]
    cases child with
    | container h =>
      simp only
      split
      · next hc =>
        have := unvisited_cons_lt hc.1 hc.2
        simp only [List.length_cons]
        omega
      · exact ih
    | _ => exact ih

/-- The containers that a search visits, given the stack and all containers that have been on
it. -/
def visitFrom (s : Store) (stack seen : List Handle) : List Handle :=
  match stack with
  | [] => []
  | h :: rest =>
    h :: s.visitFrom (s.schedule (s.cell h).children (rest, seen)).1
      (s.schedule (s.cell h).children (rest, seen)).2
termination_by s.unvisited seen + stack.length
decreasing_by
  have := schedule_unvisited_le s (s.cell h).children (rest, seen)
  simp only [List.length_cons] at this ⊢
  omega

/-- The containers that can be reached from `start`, in the order of the search. -/
def visit (s : Store) (start : Handle) : List Handle := s.visitFrom [start] [start]

/-- What a search yields at a container. -/
def harvest (s : Store) (names : Option (List String)) (h : Handle) : List Value :=
  match names with
  | some names =>
    match s.navigate names (.container h) with
    | .ok (some hit) => [hit]
    | _ => []
  | none => .container h :: (s.cell h).children.filter fun child => !child.isContainer

/-- What a search yields below a value. -/
def descend (s : Store) (names : Option (List String)) (v : Value) : List Value :=
  match v.handle? with
  | some h => (s.visit h).flatMap (s.harvest names)
  | none => []

end Store

end DocQuery
