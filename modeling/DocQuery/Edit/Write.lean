import DocQuery.Query.Find

/-!
# Writing Into Containers

A key says where a value goes inside a container: under a name, at an index, or at the end.
A target is a path whose last part, behind the last dot, is the key and whose rest leads to
the container.

A write puts a value under a key of a container.  In an object it sets or takes out a member;
writing the absent value takes the member out.  In an array it makes room at an index or adds
an element at the end; writing the absent value does nothing.  In the mode `keep` members that
are there stay as they are and elements are only added at the end.

An edit writes several values under several keys into every container that a path finds.  The
writes are carried out one after the other, and the first that fails ends the edit; what was
written before stays.

## Main definitions

- `Key`, `splitTarget`: keys, and the key that a target ends in
- `EditError`: why an edit cannot be carried out
- `Store.insert`: one write
- `Store.runWrites`: a row of writes
- `Store.putAll`, `Store.put`, `Store.add`: edits
-/

namespace DocQuery

open DocQuery.Decimal DocQuery.Path
open DocQuery.Json (Members)
open DocQuery.Text (cutLast? cutLast?_eq_none)

namespace Edit

/-! ## Keys and targets -/

/-- Where a value goes inside a container. -/
inductive Key where
  /-- Under a name; in an array a name made of digits is an index -/
  | name (name : String)
  | index (n : Int64)
  /-- At the end of an array -/
  | append
deriving DecidableEq

/-- The key that the last part of a target means. -/
def Key.parse (text : List Char) : Key :=
  if text = [] ∨ text = ['$'] then .append else .name (String.ofList text)

/-- What a key is called in a message. -/
def Key.describe : Key → String
  | name n => "Name(\"" ++ n ++ "\")"
  | index n => "Index(" ++ String.ofList (intText n.toInt) ++ ")"
  | append => "Append"

/-- The path of the container and the key that a target is made of. -/
def splitTarget (path : String) : String × Key :=
  match cutLast? '.' path.toList with
  | some (parent, key) => (String.ofList parent, .parse key)
  | none => ("", .parse path.toList)

/-- A target without a dot is a key of the root. -/
theorem splitTarget_of_noDot {path : String} (h : '.' ∉ path.toList) :
    splitTarget path = ("", .parse path.toList) := by
  simp [splitTarget, cutLast?_eq_none h]

/-! ## Errors -/

/-- Why an edit cannot be carried out. -/
inductive EditError where
  /-- The containers could not be looked up -/
  | lookup (e : QueryError)
  /-- A name that is no index, for an array -/
  | arrayKey (name : String)
  /-- A key that is no name, for an object -/
  | objectKey (key : Key)
  /-- A value of the given type that is no container -/
  | notContainer (typeName : String)
deriving DecidableEq

/-- What a target that cannot be written to is reported as. -/
def EditError.invalidTarget (reason : String) : String := "Invalid mutation target: " ++ reason

/-- What an error reads like. -/
def EditError.message : EditError → String
  | lookup e => e.message
  | arrayKey name =>
    invalidTarget ("array key must be an integer or '$', got '" ++ name ++ "'")
  | objectKey key => invalidTarget ("object key must be a name, got " ++ key.describe)
  | notContainer typeName => invalidTarget ("cannot write into a " ++ typeName)

/-! ## Writes -/

/-- What happens to what is already there. -/
inductive Mode where
  /-- A member is replaced, and an index of an array is honoured -/
  | replace
  /-- A member stays as it is, and an array only grows at its end -/
  | keep
deriving DecidableEq

/-- A value to be written into a container under a key. -/
structure Write where
  parent : Value
  /-- The place in it -/
  key : Key
  /-- What goes there -/
  value : Value
deriving DecidableEq

/-- The writes of all `pairs` into all `parents`, one parent after the other. -/
def writes (parents : List Value) (pairs : List (Key × Value)) : List Write :=
  parents.flatMap fun parent => pairs.map fun (key, value) => ⟨parent, key, value⟩

/-- How an edit ends: the store after the writes that succeeded, and the failure that ended
it, if there was one. -/
structure Outcome where
  /-- The store after the writes that succeeded -/
  store : Store
  /-- Why the edit ended early -/
  failure? : Option EditError

/-- The members of an object after a write. -/
def writeMember (mode : Mode) (members : Members Value) (name : String) (v : Value) :
    Members Value :=
  if mode = .keep ∧ (members.get? name).isSome then members
  else if v.isNull then members.remove name
  else members.set name v

/-- The index that a key means in an array; a number that is no index of any array means the
end. -/
def position? : Key → Except EditError (Option Int64)
  | .append => .ok none
  | .index n => .ok (some n)
  | .name name =>
    if isInteger name.toList then .ok (readInt64? name.toList) else .error (.arrayKey name)

/-- The elements of an array after a write. -/
def writeItem (mode : Mode) (items : List Value) (position : Option Int64) (v : Value) :
    List Value :=
  if v.isNull then items
  else match position with
    | some n =>
      if mode = .replace ∧ 0 ≤ n.toInt ∧ n.toInt < items.length then
        items.insertIdx n.toInt.toNat v
      else items ++ [v]
    | none => items ++ [v]

/-- What a container holds after a write. -/
def writeCell (mode : Mode) (cell : Cell) (key : Key) (v : Value) : Except EditError Cell :=
  match cell, key with
  | .array items, key => do
    let position ← position? key
    return .array (writeItem mode items position v)
  | .object members, .name name => .ok (.object (writeMember mode members name v))
  | .object _, key => .error (.objectKey key)

/-- A write into a container changes its elements or one of its members. -/
theorem exists_of_writeCell {mode : Mode} {cell after : Cell} {key : Key} {v : Value}
    (h : writeCell mode cell key v = .ok after) :
    (∃ items position, cell = .array items ∧ position? key = .ok position ∧
        after = .array (writeItem mode items position v)) ∨
      ∃ members name, cell = .object members ∧ key = .name name ∧
        after = .object (writeMember mode members name v) := by
  cases cell with
  | array items =>
    rw [writeCell] at h
    cases hposition : position? key with
    | error e => rw [hposition] at h; cases h
    | ok position =>
      rw [hposition] at h
      cases h
      exact .inl ⟨items, position, rfl, rfl, rfl⟩
  | object members =>
    cases key with
    | name name =>
      cases h
      exact .inr ⟨members, name, rfl, rfl, rfl⟩
    | _ => cases h

end Edit

open DocQuery.Edit

namespace Store

/-- The store after one write. -/
def insert (s : Store) (mode : Mode) (w : Write) : Except EditError Store :=
  match w.parent with
  | .container h => do
    let cell ← writeCell mode (s.cell h) w.key w.value
    return s.write h cell
  | scalar => .error (.notContainer (s.typeName scalar))

/-- Carries out writes until one fails. -/
def runWrites (s : Store) (mode : Mode) : List Write → Outcome
  | [] => ⟨s, none⟩
  | w :: ws =>
    match s.insert mode w with
    | .ok t => t.runWrites mode ws
    | .error e => ⟨s, some e⟩

/-- Writes all `pairs` into every container that `path` finds. -/
def putAll (s : Store) (root : Value) (path : String) (mode : Mode) (pairs : List (Key × Value)) :
    Outcome :=
  match s.find root path with
  | .ok parents => s.runWrites mode (writes parents pairs)
  | .error e => ⟨s, some (.lookup e)⟩

/-- Writes a value at a target. -/
def putIn (s : Store) (root : Value) (target : String) (mode : Mode) (v : Value) : Outcome :=
  let (parent, key) := splitTarget target
  s.putAll root parent mode [(key, v)]

/-- Writes a value at a target and replaces what is there. -/
def put (s : Store) (root : Value) (target : String) (v : Value) : Outcome :=
  s.putIn root target .replace v

/-- Adds a value at the end of the root, which has to be an array. -/
def add (s : Store) (root v : Value) : Outcome := s.putAll root "" .keep [(.append, v)]

/-! ## Small facts -/

/-- A write that succeeds changes the cell of its parent. -/
theorem exists_of_insert {s t : Store} {mode : Mode} {w : Write} (h : s.insert mode w = .ok t) :
    ∃ c cell, w.parent = .container c ∧ writeCell mode (s.cell c) w.key w.value = .ok cell ∧
      t = s.write c cell := by
  unfold insert at h
  split at h
  · next c hparent =>
    cases hcell : writeCell mode (s.cell c) w.key w.value with
    | error e => rw [hcell] at h; cases h
    | ok cell =>
      rw [hcell] at h
      cases h
      exact ⟨c, cell, hparent, hcell, rfl⟩
  · cases h

/-- A write makes no new containers. -/
theorem size_insert {s t : Store} {mode : Mode} {w : Write} (h : s.insert mode w = .ok t) :
    t.size = s.size := by
  obtain ⟨c, cell, -, -, rfl⟩ := exists_of_insert h
  exact size_write s c cell

/-- Writes make no new containers. -/
theorem size_runWrites (s : Store) (mode : Mode) (ws : List Write) :
    (s.runWrites mode ws).store.size = s.size := by
  induction ws generalizing s with
  | nil => rfl
  | cons w ws ih =>
    rw [runWrites]
    split
    · next t ht => rw [ih t, size_insert ht]
    · rfl

end Store

end DocQuery
