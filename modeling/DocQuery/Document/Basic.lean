import DocQuery.Document.Date
import DocQuery.Query.Find
import DocQuery.Store.Load
import DocQuery.Store.Render

/-!
# Documents

A document is a value of a store, its root.  Documents that are made from others share the
containers of these, so that what is written through one of them is seen through the others.

## Main definitions

- `Document`, `Document.ofText?`, `Document.empty`
- `Document.get`: the results of a path as a document
- `Document.first`, `Document.text`, `Document.strings`, `Document.integers`,
  `Document.dates`: the results of a path, read in different ways
-/

namespace DocQuery

/-- A value of a store as the root of queries. -/
structure Document where
  store : Store
  /-- The value that paths start from -/
  root : Value

namespace Document

/-- The document that a JSON text stands for, made in a given store. -/
def ofText? (s : Store) (text : String) : Option Document :=
  (s.loadText? text).map fun (v, t) => ⟨t, v⟩

/-- The document without content. -/
def empty (s : Store) : Document := ⟨s, .null⟩

/-- Whether there is nothing in the document: it is absent, an empty string or an empty
container. -/
def isEmpty (d : Document) : Bool :=
  match d.root with
  | .null => true
  | .string s => s.isEmpty
  | v => d.store.length? v == some 0

/-! ## Results of a path -/

/-- The values that a path finds. -/
def find (d : Document) (path : String) : Except QueryError (List Value) :=
  d.store.find d.root path

/-- Values as one document. -/
def collapse (d : Document) (results : List Value) : Document :=
  let (root, store) := d.store.collapse results
  ⟨store, root⟩

/-- The results of a path as one document. -/
def get (d : Document) (path : String) : Except QueryError Document :=
  (d.find path).map d.collapse

/-- The first result of a path. -/
def first (d : Document) (path : String) : Except QueryError (Option Value) :=
  (d.find path).map List.head?

/-- The results of a path as texts. -/
def strings (d : Document) (path : String) : Except QueryError (List String) :=
  (d.find path).map (List.map d.store.display)

/-- The first result of a path as text; nothing when there is none. -/
def text (d : Document) (path : String) : Except QueryError String :=
  (d.first path).map fun hit => (hit.map d.store.display).getD ""

/-- The results of a path that are whole numbers. -/
def integers (d : Document) (path : String) : Except QueryError (List Int64) :=
  (d.find path).map (List.filterMap Value.integer?)

/-- The results of a path that are dates. -/
def dates (d : Document) (path : String) : Except QueryError (List Date) :=
  (d.strings path).map (List.filterMap Date.read?)

end Document

end DocQuery
