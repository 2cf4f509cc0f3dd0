import DocQuery.Document.Basic
import DocQuery.Document.Condition

/-!
# Documents as Tables

A document whose root is an array of objects is read as a table: its rows are the objects, its
columns their members of one name.

## Main definitions

- `Document.stringColumn`, `Document.integerColumn`, `Document.dateColumn`: one column, read
  in different ways
- `Document.select`: the table with some of the columns
- `Document.matching`: the table with the rows that satisfy a condition
-/

namespace DocQuery.Document

/-! ## Columns -/

/-- The path of the column `name`. -/
def columnPath (name : String) : String := "[*]." ++ name

/-- The path of the rows whose member `name` is matched by a pattern. -/
def rowsPath (name pattern : String) : String :=
  "[(@." ++ name ++ " ~ '" ++ pattern ++ "')]"

/-- What members that are whole numbers look like. -/
def integerPattern : String := "\\d+"

/-- What members that are dates look like. -/
def datePattern : String := "\\d\x7b2,4\x7d-\\d\x7b2\x7d-\\d\x7b2,4\x7d"

/-- The members `name` of the rows that a path finds. -/
def membersOfRows (d : Document) (name path : String) : Except QueryError (List Value) :=
  (d.find path).map fun rows => rows.filterMap fun row => d.store.member? row name

/-- A column as texts. -/
def stringColumn (d : Document) (name : String) : Except QueryError (List String) :=
  d.strings (columnPath name)

/-- The whole numbers in a column. -/
def integerColumn (d : Document) (name : String) : Except QueryError (List Int64) :=
  (d.membersOfRows name (rowsPath name integerPattern)).map (List.filterMap Value.integer?)

/-- The dates in a column. -/
def dateColumn (d : Document) (name : String) : Except QueryError (List Date) :=
  (d.membersOfRows name (rowsPath name datePattern)).map fun members =>
    (members.map d.store.display).filterMap Date.read?

/-! ## Tables -/

/-- The members of a row in the given columns; a column that the row lacks is absent. -/
def project (s : Store) (columns : List String) (row : Value) : List (String × Value) :=
  columns.map fun column => (column, (s.member? row column).getD .null)

/-- New objects, one for each list of members. -/
def newRows (s : Store) : List (List (String × Value)) → List Value × Store
  | [] => ([], s)
  | members :: rest =>
    let (row, s) := s.newObject members
    let (rows, s) := newRows s rest
    (row :: rows, s)

/-- The table with the given columns. -/
def select (d : Document) (columns : List String) : Document :=
  let rows := (d.store.children d.root).filter d.store.isObject
  let (rows, store) := newRows d.store (rows.map (project d.store columns))
  collapse ⟨store, d.root⟩ rows

/-- The table with the rows that satisfy a condition for the given arguments. -/
def matching (d : Document) (condition : String) (arguments : List Value) : Document :=
  d.collapse (d.store.filter ("(" ++ Condition.expand condition arguments ++ ")") d.root)

end DocQuery.Document
