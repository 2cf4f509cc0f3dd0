import DocQuery.Path.Compile
import DocQuery.Query.Filter
import DocQuery.Query.Navigate
import DocQuery.Query.Selection

/-!
# Queries

A query runs the segments of its path one after the other.  Each segment is applied to every
value found so far, and the results are put together in order.

## Main definitions

- `Store.apply`: what a segment finds from one value
- `Store.runSegments`: what a row of segments finds
- `Store.find`: what a path finds
-/

namespace DocQuery.Store

open DocQuery.Path

/-- What a bracket selects from a value. -/
def select (s : Store) (selector : Selector) (v : Value) : Except QueryError (List Value) :=
  if !v.isContainer then .ok []
  else match selector with
    | .all => .ok (s.children v)
    | .slices pieces => Slice.select (s.children v) pieces
    | .key name => (s.navigate [name] v).map Option.toList

/-- What a segment finds from one value.  A glob that is too large for the patterns stops the query,
whatever the value is. -/
def apply (s : Store) (segment : Segment) (v : Value) : Except QueryError (List Value) :=
  match segment with
  | .plain names => (s.navigate names v).map Option.toList
  | .glob pattern =>
    match Glob.compile? pattern with
    | some p => .ok (s.matchKeys p v)
    | none => .error (.oversizedGlob pattern)
  | .descendant names => .ok (s.descend names v)
  | .array selector => s.select selector v
  | .filter expression => .ok (s.filter expression v)
  | .unrecognized _ => .ok []

/-- What a segment finds from several values, in their order. -/
def applyAll (s : Store) (segment : Segment) : List Value → Except QueryError (List Value)
  | [] => .ok []
  | v :: vs => do
    let found ← s.apply segment v
    let more ← s.applyAll segment vs
    return found ++ more

/-- What a row of segments finds from several values.  A fragment that no rule fits finds
nothing, and neither does any segment where nothing was found before. -/
def runSegments (s : Store) (segments : List Segment) (vs : List Value) :
    Except QueryError (List Value) :=
  match segments with
  | [] => .ok vs
  | .unrecognized _ :: _ => .ok []
  | first :: rest =>
    if vs.isEmpty then .ok []
    else do
      let found ← s.applyAll first vs
      s.runSegments rest found

/-- What a path finds from a value.  The empty path and a single dot name the value itself; a
value that is no container has nothing below it. -/
def find (s : Store) (root : Value) (path : String) : Except QueryError (List Value) :=
  if path = "" ∨ path = "." then .ok [root]
  else if !root.isContainer then .ok []
  else s.runSegments (parse path) [root]

/-- Results as one value: without absent ones, a single one stands for itself, and all others
make a new array. -/
def collapse (s : Store) (results : List Value) : Value × Store :=
  match results.filter (!·.isNull) with
  | [v] => (v, s)
  | vs => s.newArray vs

/-! ## Small facts -/

/-- The two paths that name the value itself have no segments. -/
theorem ne_of_parse_ne_nil {path : String} (h : parse path ≠ []) : path ≠ "" ∧ path ≠ "." := by
  have hnone : parse "" = [] ∧ parse "." = [] := by decide +kernel
  constructor
  · rintro rfl
    exact h hnone.1
  · rintro rfl
    exact h hnone.2

theorem applyAll_singleton (s : Store) (segment : Segment) (v : Value) :
    s.applyAll segment [v] = s.apply segment v := by
  simp only [applyAll]
  cases s.apply segment v with
  | error e => rfl
  | ok found => exact congrArg Except.ok (List.append_nil found)

/-- A path of a single segment that is understood finds from a container what the segment finds. -/
theorem find_of_parse_singleton {path : String} {segment : Segment}
    (hparse : parse path = [segment]) (hknown : ∀ fragment, segment ≠ .unrecognized fragment)
    (s : Store) (root : Handle) :
    s.find (.container root) path = s.apply segment (.container root) := by
  have hroot : ¬(path = "" ∨ path = ".") :=
    not_or.mpr (ne_of_parse_ne_nil (by rw [hparse]; exact List.cons_ne_nil _ _))
  have hcontainer : (!(Value.container root).isContainer) = false := rfl
  rw [find, if_neg hroot, hcontainer, if_neg Bool.false_ne_true, hparse]
  cases segment with
  | unrecognized fragment => exact absurd rfl (hknown fragment)
  | _ =>
    simp only [runSegments, List.isEmpty_cons, Bool.false_eq_true, if_false, applyAll_singleton]
    exact bind_pure _

/-- Applying a segment to two rows of values is applying it to each of them. -/
theorem applyAll_append (s : Store) (segment : Segment) (vs ws : List Value) :
    s.applyAll segment (vs ++ ws) = (do
      let found ← s.applyAll segment vs
      let more ← s.applyAll segment ws
      return found ++ more) := by
  induction vs with
  | nil =>
    simp only [List.nil_append, applyAll, bind, Except.bind]
    cases s.applyAll segment ws <;> rfl
  | cons v vs ih =>
    simp only [List.cons_append, applyAll, ih, bind, Except.bind]
    cases s.apply segment v with
    | error e => rfl
    | ok found =>
      cases s.applyAll segment vs with
      | error e => rfl
      | ok more =>
        simp only [pure, Except.pure]
        cases s.applyAll segment ws with
        | error e => rfl
        | ok rest => simp

theorem runSegments_nil_values (s : Store) (segments : List Segment) :
    s.runSegments segments [] = .ok [] := by
  cases segments with
  | nil => rfl
  | cons first rest => cases first <;> rfl

/-- A segment that is understood is applied to all values, also where there are none. -/
theorem runSegments_cons {s : Store} {first : Segment}
    (hknown : ∀ fragment, first ≠ .unrecognized fragment) (segments : List Segment)
    (vs : List Value) :
    s.runSegments (first :: segments) vs = s.applyAll first vs >>= s.runSegments segments := by
  cases vs with
  | nil =>
    rw [runSegments_nil_values]
    exact (s.runSegments_nil_values segments).symm
  | cons v vs =>
    cases first with
    | unrecognized fragment => exact absurd rfl (hknown fragment)
    | _ => rfl

end DocQuery.Store
