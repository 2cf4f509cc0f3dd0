import DocQuery.Document.Date
import DocQuery.Edit.Write
import DocQuery.Session.Spec

/-!
# Requests and Answers

What can be asked of a session: documents can be made and given a name, questions can be put
to a document, and a document can be changed.
-/

namespace DocQuery.Session

open DocQuery.Edit

/-- How a document is made. -/
inductive Making where
  /-- From JSON text -/
  | load (text : String)
  /-- Without content -/
  | empty
  /-- From a description -/
  | make (spec : Spec)
  /-- From the results of a path -/
  | get (document path : String)
  /-- From some columns of a table -/
  | select (document : String) (columns : List String)
  /-- From the rows of a table that satisfy a condition -/
  | matching (document condition : String) (arguments : List Spec)

/-- What is asked about a document. -/
inductive Question where
  /-- All results of a path -/
  | find (path : String)
  /-- The first result of a path -/
  | first (path : String)
  /-- The first result of a path as text -/
  | text (path : String)
  | strings (path : String)
  | integers (path : String)
  | dates (path : String)
  | stringColumn (name : String)
  | integerColumn (name : String)
  | dateColumn (name : String)
  /-- What a filter keeps of the root -/
  | filter (expression : String)
  | children
  | member (name : String)
  | isEmpty
  | root
  /-- Whether the root is the same as that of another document -/
  | same (other : String)

/-- How a document is changed. -/
inductive Change where
  | put (target : String) (value : Spec)
  | add (value : Spec)
  /-- Values are written into all containers that a path finds -/
  | putAll (path : String) (mode : Mode) (pairs : List (Key × Spec))

/-- A step of a session. -/
inductive Request where
  | define (making : Making) (name? : Option String)
  | ask (document : String) (question : Question)
  | change (document : String) (change : Change)

/-- What a step answers. -/
inductive Answer where
  | made (root : Value)
  | values (vs : List Value)
  | value? (v : Option Value)
  | text (s : String)
  | texts (ss : List String)
  | integers (ns : List Int64)
  | dates (ds : List Date)
  /-- Values, each with the text of its key -/
  | children (entries : List (String × Value))
  | truth (b : Bool)
  /-- The root of a document as it is -/
  | root (v : Value)
  /-- The root of a document after a change -/
  | changed (root : Value)

/-- Why a step fails. -/
inductive Failure where
  | spec (e : SpecError)
  | query (e : QueryError)
  /-- A change ends early; the root is that of the document as the change left it -/
  | edit (e : EditError) (root : Value)

end DocQuery.Session
