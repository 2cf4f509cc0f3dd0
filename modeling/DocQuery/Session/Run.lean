import DocQuery.Document.Table
import DocQuery.Session.Request

/-!
# Running a Session

A session is a store together with documents that have names.  All of them live in the one
store, so that a change made through one document is seen through every other that shares the
container.  A step that fails makes no document.

## Main definitions

- `Session`, `Session.step`, `Session.run`
-/

namespace DocQuery

open DocQuery.Session DocQuery.Edit
open DocQuery.Json (Members)

/-- The store and the documents of a session. -/
structure Session where
  /-- The containers of all documents -/
  store : Store := {}
  /-- The root of each document that has a name -/
  roots : Members Value := []

namespace Session

/-- The document of a name. -/
def document (session : Session) (name : String) : Except SpecError Document :=
  match session.roots.get? name with
  | some root => .ok ⟨session.store, root⟩
  | none => .error (.unknownDocument name)

/-- A failure to make a value, as a failure of a step. -/
def orSpecFailure {α : Type} (result : Except SpecError α) : Except Failure α :=
  result.mapError .spec

/-- A failure of a path, as a failure of a step. -/
def orQueryFailure {α : Type} (result : Except QueryError α) : Except Failure α :=
  result.mapError .query

/-! ## Making documents -/

/-- The document that is made. -/
def build (session : Session) : Making → Except Failure Document
  | .load text =>
    match Document.ofText? session.store text with
    | some d => .ok d
    | none => .error (.spec .json)
  | .empty => .ok (.empty session.store)
  | .make spec => do
    let (v, s) ← orSpecFailure (spec.build session.roots session.store)
    return ⟨s, v⟩
  | .get name path => do
    let d ← orSpecFailure (session.document name)
    orQueryFailure (d.get path)
  | .select name columns => do
    let d ← orSpecFailure (session.document name)
    return d.select columns
  | .matching name condition arguments => do
    let d ← orSpecFailure (session.document name)
    let (values, s) ← orSpecFailure (Spec.buildItems session.roots session.store arguments)
    return Document.matching { d with store := s } condition values

/-- The session with a document kept under a name, if it has one. -/
def keep (session : Session) (name? : Option String) (d : Document) : Session where
  store := d.store
  roots := match name? with
    | some name => session.roots.set name d.root
    | none => session.roots

/-! ## Questions -/

/-- The answer to a question about a document. -/
def answer (session : Session) (d : Document) : Question → Except Failure Answer
  | .find path => .values <$> orQueryFailure (d.find path)
  | .first path => .value? <$> orQueryFailure (d.first path)
  | .text path => .text <$> orQueryFailure (d.text path)
  | .strings path => .texts <$> orQueryFailure (d.strings path)
  | .integers path => .integers <$> orQueryFailure (d.integers path)
  | .dates path => .dates <$> orQueryFailure (d.dates path)
  | .stringColumn name => .texts <$> orQueryFailure (d.stringColumn name)
  | .integerColumn name => .integers <$> orQueryFailure (d.integerColumn name)
  | .dateColumn name => .dates <$> orQueryFailure (d.dateColumn name)
  | .filter expression => .ok (.values (d.store.filter expression d.root))
  | .children => .ok (.children (d.store.entries d.root))
  | .member name => .ok (.value? (d.store.member? d.root name))
  | .isEmpty => .ok (.truth d.isEmpty)
  | .root => .ok (.root d.root)
  | .same other => do
    let e ← orSpecFailure (session.document other)
    return .truth (d.root.same e.root)

/-! ## Changes -/

/-- How a change of a document ends. -/
def outcome (session : Session) (d : Document) : Change → Except SpecError Outcome
  | .put target spec => do
    let (v, s) ← spec.build session.roots d.store
    return s.put d.root target v
  | .add spec => do
    let (v, s) ← spec.build session.roots d.store
    return s.add d.root v
  | .putAll path mode pairs => do
    let (pairs, s) ← Spec.buildPairs session.roots d.store pairs
    return s.putAll d.root path mode pairs

/-! ## Steps -/

/-- What a step answers, and the session after it. -/
def step (session : Session) : Request → Except Failure Answer × Session
  | .define making name? =>
    match session.build making with
    | .ok d => (.ok (.made d.root), session.keep name? d)
    | .error e => (.error e, session)
  | .ask name question =>
    match session.document name with
    | .ok d => (session.answer d question, session)
    | .error e => (.error (.spec e), session)
  | .change name change =>
    match session.document name with
    | .ok d =>
      match session.outcome d change with
      | .ok ⟨store, none⟩ => (.ok (.changed d.root), { session with store })
      | .ok ⟨store, some e⟩ => (.error (.edit e d.root), { session with store })
      | .error e => (.error (.spec e), session)
    | .error e => (.error (.spec e), session)

/-- The answers to a row of steps, each with the session after it. -/
def run (session : Session) : List Request → List (Except Failure Answer × Session)
  | [] => []
  | request :: requests =>
    let result := session.step request
    result :: run result.2 requests

end Session

end DocQuery
