import DocQuery.Json.Reader
import DocQuery.Store.Value

/-!
# Loading JSON Trees

A tree becomes a value, its arrays and objects new containers of a store.  Absent items and
members are dropped.  A whole number that does not fit 64 bits with a sign becomes a
floating-point number.
-/

namespace DocQuery

open DocQuery.Json DocQuery.Decimal

/-- The value of a number. -/
def Value.ofNumber : Number → Value
  | .integer n =>
    match toInt64? n with
    | some m => .integer m
    | none => .float (Float64.ofInt n)
  | .float x => .float x

namespace Store

mutual

/-- The value of a tree, and the store with its containers. -/
def load (s : Store) : Tree → Value × Store
  | .null => (.null, s)
  | .bool b => (.bool b, s)
  | .number n => (Value.ofNumber n, s)
  | .string t => (.string t, s)
  | .array items =>
    let (values, s) := loadItems s items
    s.newArray values
  | .object members =>
    let (values, s) := loadMembers s members
    s.newObject values

/-- The values of the items of an array. -/
def loadItems (s : Store) : List Tree → List Value × Store
  | [] => ([], s)
  | t :: ts =>
    let (v, s) := load s t
    let (vs, s) := loadItems s ts
    (v :: vs, s)

/-- The values of the members of an object. -/
def loadMembers (s : Store) : List (String × Tree) → List (String × Value) × Store
  | [] => ([], s)
  | (name, t) :: ms =>
    let (v, s) := load s t
    let (vs, s) := loadMembers s ms
    ((name, v) :: vs, s)

end

/-- The value that a JSON text stands for, and the store with its containers. -/
def loadText? (s : Store) (text : String) : Option (Value × Store) :=
  (Json.read? text).map s.load

end Store

end DocQuery
