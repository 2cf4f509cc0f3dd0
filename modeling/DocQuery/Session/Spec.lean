import DocQuery.Document.Basic

/-!
# Descriptions of Values

A description says how a value is made: from JSON text, as the root of a document that has a
name, as a scalar, or as a new array or object of such values.

## Main definitions

- `Spec`: descriptions
- `Spec.build`: the value that a description makes
-/

namespace DocQuery.Session

open DocQuery.Json (Members)

/-- A description of a value. -/
inductive Spec where
  /-- The value of a JSON text -/
  | json (text : String)
  /-- The root of the document of that name, as the same container -/
  | root (document : String)
  /-- The absent value -/
  | null
  | bool (b : Bool)
  | integer (n : Int64)
  | float (x : Float)
  | string (s : String)
  | array (items : List Spec)
  | object (members : List (String × Spec))

/-- Why a description makes no value. -/
inductive SpecError where
  /-- A text that is no JSON -/
  | json
  /-- There is no document of that name -/
  | unknownDocument (name : String)
deriving DecidableEq

namespace Spec

mutual

/-- The value that a description makes, and the store with its containers.  The roots of the
documents are looked up in `roots`. -/
def build (roots : Members Value) (s : Store) : Spec → Except SpecError (Value × Store)
  | .json text =>
    match s.loadText? text with
    | some result => .ok result
    | none => .error .json
  | .root name =>
    match roots.get? name with
    | some v => .ok (v, s)
    | none => .error (.unknownDocument name)
  | .null => .ok (.null, s)
  | .bool b => .ok (.bool b, s)
  | .integer n => .ok (.integer n, s)
  | .float x => .ok (.float x, s)
  | .string t => .ok (.string t, s)
  | .array items => do
    let (values, s) ← buildItems roots s items
    return s.newArray values
  | .object members => do
    let (values, s) ← buildMembers roots s members
    return s.newObject values

/-- The values of the items of an array. -/
def buildItems (roots : Members Value) (s : Store) :
    List Spec → Except SpecError (List Value × Store)
  | [] => .ok ([], s)
  | item :: items => do
    let (v, s) ← build roots s item
    let (vs, s) ← buildItems roots s items
    return (v :: vs, s)

/-- The values of the members of an object. -/
def buildMembers (roots : Members Value) (s : Store) :
    List (String × Spec) → Except SpecError (List (String × Value) × Store)
  | [] => .ok ([], s)
  | (name, member) :: members => do
    let (v, s) ← build roots s member
    let (vs, s) ← buildMembers roots s members
    return ((name, v) :: vs, s)

end

/-- The values of descriptions that stand under keys. -/
def buildPairs {κ : Type} (roots : Members Value) (s : Store) :
    List (κ × Spec) → Except SpecError (List (κ × Value) × Store)
  | [] => .ok ([], s)
  | (key, spec) :: pairs => do
    let (v, s) ← build roots s spec
    let (vs, s) ← buildPairs roots s pairs
    return ((key, v) :: vs, s)

end Spec

end DocQuery.Session
