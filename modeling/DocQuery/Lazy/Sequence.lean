/-!
# Lazy Sequences

A lazy sequence produces its elements one pull at a time.  A pull yields an element, a skip,
or the end.  Skips are how the stages of a pipeline drop elements; asking for the next element
tolerates `maxSkips` of them in a row and then gives up, so that a pipeline that rejects
almost everything does not run on.  Asking again goes on behind the last element pulled.

A sequence is a state together with the way it is pulled.  Stages change how it is pulled and
keep the state of the source.

## Main definitions

- `Sequence.ofList`, `Sequence.generate`: sources
- `Sequence.filter`, `Sequence.filterMap`, `Sequence.tryMap`: stages
- `Sequence.next`, `Sequence.first`, `Sequence.collect`: consumers
-/

namespace DocQuery.Lazy

/-- The outcome of one pull. -/
inductive Step (α : Type) where
  | emit (a : α)
  /-- An element that was dropped -/
  | skip
  /-- The end of the source -/
  | ended
deriving DecidableEq

/-- What becomes of a pull when its element goes through `f`. -/
def Step.filterMap {α β : Type} (f : α → Option β) : Step α → Step β
  | emit a => match f a with
    | some b => .emit b
    | none => .skip
  | skip => .skip
  | ended => .ended

/-- A sequence of elements that are produced on demand. -/
structure Sequence (σ α : Type) where
  /-- Where the sequence stands. -/
  state : σ
  /-- The next outcome, and where the sequence stands then. -/
  pull : σ → Step α × σ

/-- How many skips in a row are tolerated when the next element is asked for. -/
def maxSkips : Nat := 10

namespace Sequence

variable {σ α β ε : Type}

/-! ## Sources -/

/-- The elements `f 0`, `f 1`, …; the sequence ends where `f` has none. -/
def generate (f : Nat → Option α) : Sequence Nat α where
  state := 0
  pull i := (match f i with
    | some a => .emit a
    | none => .ended, i + 1)

/-- The elements of a list. -/
def ofList (as : List α) : Sequence (List α) α where
  state := as
  pull
    | [] => (.ended, [])
    | a :: as => (.emit a, as)

/-- The numbers from `lower` up to, but not including, `upper`. -/
def range (lower upper : Nat) : Sequence Nat Nat :=
  generate fun i => if lower + i < upper then some (lower + i) else none

/-! ## Stages -/

/-- Sends each element through `f` and skips those that it gives nothing for. -/
def filterMap (f : α → Option β) (s : Sequence σ α) : Sequence σ β where
  state := s.state
  pull t :=
    let (step, t) := s.pull t
    (step.filterMap f, t)

/-- Keeps the elements that satisfy `p`. -/
def filter (p : α → Bool) (s : Sequence σ α) : Sequence σ α :=
  s.filterMap fun a => if p a then some a else none

/-- Sends each element through `f` and skips those for which it fails. -/
def tryMap (f : α → Except ε β) (s : Sequence σ α) : Sequence σ β :=
  s.filterMap fun a => (f a).toOption

/-- Counts the elements that come from the source. -/
def counting (s : Sequence σ α) : Sequence (Nat × σ) α where
  state := (0, s.state)
  pull t :=
    let (step, u) := s.pull t.2
    (step, match step with
      | .emit _ => t.1 + 1
      | _ => t.1, u)

/-! ## Consumers -/

/-- The next element, if it comes within `n` pulls. -/
def nextWithin : Nat → Sequence σ α → Option α × Sequence σ α
  | 0, s => (none, s)
  | n + 1, s =>
    let (step, t) := s.pull s.state
    let s := { s with state := t }
    match step with
    | .emit a => (some a, s)
    | .skip => nextWithin n s
    | .ended => (none, s)

/-- The next element, unless the source ends or too many elements are skipped first. -/
def next (s : Sequence σ α) : Option α × Sequence σ α := s.nextWithin (maxSkips + 1)

/-- The first element. -/
def first (s : Sequence σ α) : Option α := s.next.1

/-- What `n` requests for the next element answer, and the sequence behind them. -/
def takeNext : Nat → Sequence σ α → List (Option α) × Sequence σ α
  | 0, s => ([], s)
  | n + 1, s =>
    let (a, s) := s.next
    let (as, s) := takeNext n s
    (a :: as, s)

/-- The elements up to the first request that finds none, but not more than `limit`. -/
def collect : Nat → Sequence σ α → List α × Sequence σ α
  | 0, s => ([], s)
  | limit + 1, s =>
    match s.next with
    | (some a, s) =>
      let (as, s) := collect limit s
      (a :: as, s)
    | (none, s) => ([], s)

/-! ## Small facts -/

/-- Two stages in a row are one stage that goes through both functions. -/
theorem filterMap_filterMap {γ : Type} (f : α → Option β) (g : β → Option γ) (s : Sequence σ α) :
    (s.filterMap f).filterMap g = s.filterMap fun a => (f a).bind g := by
  simp only [filterMap, Sequence.mk.injEq, true_and]
  funext t
  cases (s.pull t).1 with
  | emit a => cases h : f a <;> simp [Step.filterMap, h]
  | skip => rfl
  | ended => rfl

/-- As long as a list is not longer than the tolerance, its first acceptable element is
found. -/
theorem nextWithin_filter_ofList (p : α → Bool) (as : List α) (n : Nat) (h : as.length < n) :
    (nextWithin n ((ofList as).filter p)).1 = as.find? p := by
  induction as generalizing n with
  | nil =>
    cases n with
    | zero => simp at h
    | succ n => rfl
  | cons a as ih =>
    cases n with
    | zero => simp at h
    | succ n =>
      simp only [List.length_cons, Nat.add_lt_add_iff_right] at h
      cases hp : p a with
      | true => simp [nextWithin, filter, filterMap, ofList, Step.filterMap, hp]
      | false =>
        simpa [nextWithin, filter, filterMap, ofList, Step.filterMap, hp] using ih n h

end Sequence

end DocQuery.Lazy
