import DocQuery.Decimal.Binary
import DocQuery.Json.Tree

/-!
# Values and Their Store

Values are null, truth values, numbers, strings and containers.  A container is a handle to a
cell of the store, and a cell is an array or an object.  Handles may be shared: whoever holds
one sees what is written through another, and a container may even be found below itself.

Two values are the same container exactly when their handles are equal; containers with equal
contents are not the same.

## Main definitions

- `Value`, `Cell`, `Store`
- `Store.cell`, `Store.alloc`, `Store.write`: reading, adding and changing cells
- `Store.entries`, `Store.children`: what a value holds directly
- `Value.same`: sameness of values

## Main statements

- `cell_alloc_self`, `cell_alloc_of_lt`, `cell_write_self`, `cell_write_of_ne`, `write_write`:
  what a store holds after a change
- `unvisited_cons_lt`: visiting a container leaves fewer unvisited ones
-/

namespace DocQuery

open DocQuery.Json (Members)
open DocQuery.Decimal (Float64.whole?)

/-- The identity of a container. -/
structure Handle where
  /-- The place of its cell in the store -/
  index : Nat
deriving DecidableEq, Repr

/-- A value of a document. -/
inductive Value where
  /-- The absent value -/
  | null
  | bool (b : Bool)
  | float (x : Float)
  | integer (n : Int64)
  | string (s : String)
  /-- An array or object, by its handle -/
  | container (h : Handle)
deriving DecidableEq

/-- What a container holds. -/
inductive Cell where
  | array (items : List Value)
  | object (members : Members Value)
deriving DecidableEq

/-- The contents of all containers. -/
structure Store where
  /-- The cells, in the order in which they were added -/
  cells : Array Cell := #[]

/-! ## Cells -/

namespace Cell

/-- The direct children of a container, each with the text of its key: names in an object,
indices in an array. -/
def entries : Cell → List (String × Value)
  | array items => items.zipIdx.map fun (v, i) => (Nat.repr i, v)
  | object members => members

/-- The direct children of a container. -/
def children : Cell → List Value
  | array items => items
  | object members => members.map Prod.snd

/-- How many children a container has. -/
def size (c : Cell) : Nat := c.children.length

theorem map_snd_entries (c : Cell) : c.entries.map Prod.snd = c.children := by
  cases c with
  | array items =>
    simp only [entries, children, List.map_map]
    exact List.zipIdx_map_fst 0 items
  | object members => rfl

end Cell

/-! ## The store -/

namespace Store

/-- How many containers there are. -/
def size (s : Store) : Nat := s.cells.size

/-- What the container `h` holds. -/
def cell (s : Store) (h : Handle) : Cell := s.cells[h.index]?.getD (.array [])

/-- Adds a container. -/
def alloc (s : Store) (c : Cell) : Value × Store :=
  (.container ⟨s.cells.size⟩, ⟨s.cells.push c⟩)

/-- Changes what the container `h` holds. -/
def write (s : Store) (h : Handle) (c : Cell) : Store := ⟨s.cells.setIfInBounds h.index c⟩

theorem size_alloc (s : Store) (c : Cell) : (s.alloc c).2.size = s.size + 1 := by
  simp [alloc, size]

theorem size_write (s : Store) (h : Handle) (c : Cell) : (s.write h c).size = s.size := by
  simp [write, size]

/-- A new container holds what it was made with. -/
theorem cell_alloc_self (s : Store) (c : Cell) : (s.alloc c).2.cell ⟨s.size⟩ = c := by
  simp [alloc, cell, size]

/-- Adding a container leaves the others alone. -/
theorem cell_alloc_of_lt {s : Store} {h : Handle} (hh : h.index < s.size) (c : Cell) :
    (s.alloc c).2.cell h = s.cell h := by
  have : h.index ≠ s.cells.size := Nat.ne_of_lt hh
  simp [alloc, cell, Array.getElem?_push, this]

/-- A container holds what was last written to it. -/
theorem cell_write_self {s : Store} {h : Handle} (hh : h.index < s.size) (c : Cell) :
    (s.write h c).cell h = c := by
  have : h.index < s.cells.size := hh
  simp [write, cell, this]

/-- Writing to a container leaves the others alone. -/
theorem cell_write_of_ne {h g : Handle} (hg : g ≠ h) (s : Store) (c : Cell) :
    (s.write h c).cell g = s.cell g := by
  have : h.index ≠ g.index := fun e => hg (by cases g; cases h; simp_all)
  simp [write, cell, Array.getElem?_setIfInBounds_ne this]

/-- Of two changes to a container the last one counts. -/
theorem write_write (s : Store) (h : Handle) (c d : Cell) :
    (s.write h c).write h d = s.write h d := by
  simp only [write, Array.setIfInBounds_setIfInBounds]

end Store

/-! ## Values -/

namespace Value

/-- Whether the value is absent. -/
def isNull : Value → Bool
  | null => true
  | _ => false

theorem isNull_iff {v : Value} : v.isNull = true ↔ v = null := by
  cases v <;> simp [isNull]

/-- The handle of a container. -/
def handle? : Value → Option Handle
  | container h => some h
  | _ => none

/-- Whether the value is an array or an object. -/
def isContainer (v : Value) : Bool := v.handle?.isSome

/-- Whether the value is a truth value, a number or a string. -/
def isPrimitive : Value → Bool
  | null | container _ => false
  | _ => true

/-- Sameness: containers by their handles, everything else by value. -/
def same : Value → Value → Bool
  | container h, container g => h == g
  | float x, float y => x == y
  | a, b => a == b

/-- The value as a floating-point number. -/
def float? : Value → Option Float
  | integer n => some (Decimal.Float64.ofInt n.toInt)
  | float x => some x
  | _ => none

/-- The nearest integer of 64 bits to `n`. -/
def clampInt64 (n : Int) : Int64 :=
  Int64.ofInt (max Int64.minValue.toInt (min Int64.maxValue.toInt n))

/-- The value as a whole number.  A floating-point number has to be whole; one out of range
gives the nearest number in range. -/
def integer? : Value → Option Int64
  | integer n => some n
  | float x => (Decimal.Float64.whole? x).map clampInt64
  | _ => none

/-- The value as a string. -/
def string? : Value → Option String
  | string s => some s
  | _ => none

end Value

namespace Store

/-- The direct children of a value, each with the text of its key. -/
def entries (s : Store) : Value → List (String × Value)
  | .container h => (s.cell h).entries
  | _ => []

/-- The direct children of a value. -/
def children (s : Store) : Value → List Value
  | .container h => (s.cell h).children
  | _ => []

/-- How many children a container has. -/
def length? (s : Store) : Value → Option Nat
  | .container h => some (s.cell h).size
  | _ => none

/-- The member `name` of an object. -/
def member? (s : Store) (v : Value) (name : String) : Option Value :=
  match v with
  | .container h => match s.cell h with
    | .object members => Members.get? members name
    | .array _ => none
  | _ => none

/-- Whether the value is an array. -/
def isArray (s : Store) : Value → Bool
  | .container h => match s.cell h with
    | .array _ => true
    | .object _ => false
  | _ => false

/-- Whether the value is an object. -/
def isObject (s : Store) : Value → Bool
  | .container h => match s.cell h with
    | .object _ => true
    | .array _ => false
  | _ => false

/-- What a value is called. -/
def typeName (s : Store) : Value → String
  | .null => "null"
  | .bool _ => "boolean"
  | .integer _ => "integer"
  | .float _ => "float"
  | .string _ => "string"
  | .container h => match s.cell h with
    | .array _ => "array"
    | .object _ => "object"

/-- A new array with the given elements, without the absent ones. -/
def newArray (s : Store) (items : List Value) : Value × Store :=
  s.alloc (.array (items.filter (!·.isNull)))

/-- A new object with the given members, without the absent ones. -/
def newObject (s : Store) (members : List (String × Value)) : Value × Store :=
  s.alloc (.object (Members.ofPairs (members.filter (!·.2.isNull))))

/-! ## Unvisited containers

A walk through a store that enters no container twice comes to an end, because each container
that it enters leaves fewer unvisited ones. -/

/-- How many containers of the store are not among the visited ones. -/
def unvisited (s : Store) (visited : List Handle) : Nat :=
  (List.range s.size).countP fun i => !visited.contains ⟨i⟩

/-- A condition that is implied by another, but not at every element, holds less often. -/
theorem countP_lt_countP {α : Type} {p q : α → Bool} {l : List α} {a : α}
    (himp : ∀ x ∈ l, p x = true → q x = true) (ha : a ∈ l) (hp : p a = false)
    (hq : q a = true) : l.countP p < l.countP q := by
  induction l with
  | nil => cases ha
  | cons x l ih =>
    have hmono : l.countP p ≤ l.countP q :=
      List.countP_mono_left fun y hy => himp y (List.mem_cons_of_mem x hy)
    rw [List.countP_cons, List.countP_cons]
    rcases List.mem_cons.mp ha with rfl | ha
    · simp only [hp, hq]
      simp
      omega
    · have hlt := ih (fun y hy => himp y (List.mem_cons_of_mem x hy)) ha
      have hx := himp x List.mem_cons_self
      cases hpx : p x with
      | true => simp [hx hpx]; omega
      | false => cases q x <;> simp <;> omega

/-- Visiting a container leaves fewer unvisited ones. -/
theorem unvisited_cons_lt {s : Store} {visited : List Handle} {h : Handle}
    (hsize : h.index < s.size) (hnew : visited.contains h = false) :
    s.unvisited (h :: visited) < s.unvisited visited := by
  refine countP_lt_countP ?_ (List.mem_range.mpr hsize) ?_ ?_
  · intro i _ hi
    simp only [List.contains_cons, Bool.not_or, Bool.and_eq_true] at hi
    exact hi.2
  · simp
  · simp only [hnew, Bool.not_false]

end Store

end DocQuery
