import Mathlib
import DocQuery.Proofs.Query.Locality
import DocQuery.Session.Run

/-!
# Separate Documents

An edit only writes to containers that its path finds, and these can be reached from the root.  So
all others are as before, also when the edit ends early.  Together with the locality of queries
this separates documents: where two of them share no container, an edit of the one changes no
answer of the other.

## Main definitions

- `Edited`: the store after an edit of the document of a root

## Main statements

- `answer_eq`: questions about a document depend on what is below its root
- `cells_runWrites`, `Edited.cells_eq`: what stays as it is
- `edited_separate`: queries and edits are local, and an edit changes no answer of a document that
  shares no container with the edited one
-/

namespace DocQuery.Store

open DocQuery.Edit DocQuery.Session

variable {s t : Store} {root : Value} {h : Handle}

/-! ## Questions -/

section Answers

variable (hagree : s.AgreesBelow root t)

include hagree

theorem strings_eq (path : String) :
    Document.strings ⟨t, root⟩ path = Document.strings ⟨s, root⟩ path :=
  (alike_find hagree path).map_eq fun _ hvs =>
    List.map_congr_left fun v hv => display_eq hagree (hvs v hv)

theorem text_eq (path : String) :
    Document.text ⟨t, root⟩ path = Document.text ⟨s, root⟩ path := by
  have hfirst : Alike (fun hit => ∀ v ∈ hit, s.Holds root v)
      (Document.first ⟨t, root⟩ path) (Document.first ⟨s, root⟩ path) :=
    (alike_find hagree path).map (fun _ _ => rfl) fun _ hvs v hv =>
      hvs v (List.mem_of_mem_head? hv)
  refine hfirst.map_eq fun hit hhit => ?_
  cases hit with
  | none => rfl
  | some v => simp only [Option.map_some, display_eq hagree (hhit v rfl)]

/-- The members of the rows that a path finds are held. -/
theorem alike_membersOfRows (name path : String) :
    Alike (s.HoldsAll root) (Document.membersOfRows ⟨t, root⟩ name path)
      (Document.membersOfRows ⟨s, root⟩ name path) := by
  refine (alike_find hagree path).map (fun rows hrows => ?_) fun rows hrows v hv => ?_
  · exact List.filterMap_congr fun row hrow => hagree.member?_eq (hrows row hrow) name
  · obtain ⟨row, hrow, hmember⟩ := List.mem_filterMap.mp hv
    exact (hrows row hrow).of_member? hmember

/-- The answer to a question about a document depends on what is below its root only. -/
theorem answer_eq (session : Session) (question : Question) :
    session.answer ⟨t, root⟩ question = session.answer ⟨s, root⟩ question := by
  have hroot : s.Holds root root := .inl rfl
  have hfind : ∀ path, Document.find ⟨t, root⟩ path = Document.find ⟨s, root⟩ path := fun path =>
    (alike_find hagree path).eq
  have hrows : ∀ name path, Document.membersOfRows ⟨t, root⟩ name path =
      Document.membersOfRows ⟨s, root⟩ name path := fun name path =>
    (alike_membersOfRows hagree name path).eq
  -- all but the last two ask what a path finds or what the root holds
  cases question with
  | find path => simp only [Session.answer, hfind]
  | first path => simp only [Session.answer, Document.first, hfind]
  | text path => simp only [Session.answer, text_eq hagree]
  | strings path => simp only [Session.answer, strings_eq hagree]
  | integers path => simp only [Session.answer, Document.integers, hfind]
  | dates path => simp only [Session.answer, Document.dates, strings_eq hagree]
  | stringColumn name => simp only [Session.answer, Document.stringColumn, strings_eq hagree]
  | integerColumn name => simp only [Session.answer, Document.integerColumn, hrows]
  | dateColumn name =>
    have hdates : Document.dateColumn ⟨t, root⟩ name = Document.dateColumn ⟨s, root⟩ name :=
      (alike_membersOfRows hagree name _).map_eq fun vs hvs => by
        rw [List.map_congr_left fun v hv => display_eq hagree (hvs v hv)]
    simp only [Session.answer, hdates]
  | filter expression =>
    have hfilter := (alike_filter hagree expression hroot).eq
    simp only [Session.answer, Except.ok.inj hfilter]
  | children => simp only [Session.answer, hagree.entries_eq hroot]
  | member name => simp only [Session.answer, hagree.member?_eq hroot]
  | isEmpty =>
    have hempty : Document.isEmpty ⟨t, root⟩ = Document.isEmpty ⟨s, root⟩ := by
      cases root with
      | container g => exact congrArg (· == some 0) (hagree.length?_eq hroot)
      | _ => rfl
    simp only [Session.answer, hempty]
  | root => rfl
  | same other => rfl

end Answers

/-! ## Edits -/

/-- A write leaves all containers but its parent alone. -/
theorem cells_insert {mode : Mode} {w : Write} (hinsert : s.insert mode w = .ok t)
    (hparent : w.parent ≠ .container h) : t.cells[h.index]? = s.cells[h.index]? := by
  obtain ⟨g, cell, hg, -, rfl⟩ := exists_of_insert hinsert
  apply Array.getElem?_setIfInBounds_ne
  intro heq
  apply hparent
  rw [hg, show g = h from congrArg Handle.mk heq]

/-- Containers that no write names as its parent stay as they are, also if a write fails. -/
theorem cells_runWrites (mode : Mode) {ws : List Write}
    (hparents : ∀ w ∈ ws, w.parent ≠ .container h) (s : Store) :
    (s.runWrites mode ws).store.cells[h.index]? = s.cells[h.index]? := by
  -- on the writes; the first one that fails leaves the store as it found it
  induction ws generalizing s with
  | nil => rfl
  | cons w ws ih =>
    rw [runWrites]
    split
    · next t ht =>
      rw [ih (fun w hw => hparents w (List.mem_cons_of_mem _ hw)) t]
      exact cells_insert ht (hparents w List.mem_cons_self)
    · rfl

theorem parent_mem_of_mem_writes {parents : List Value} {pairs : List (Key × Value)} {w : Write}
    (hw : w ∈ writes parents pairs) : w.parent ∈ parents := by
  obtain ⟨parent, hparent, hw⟩ := List.mem_flatMap.mp hw
  obtain ⟨pair, -, rfl⟩ := List.mem_map.mp hw
  exact hparent

/-- All parents are found before anything is written, so they can be reached. -/
theorem cells_putAll (hout : h.index < s.size → ¬s.Within root h) (path : String) (mode : Mode)
    (pairs : List (Key × Value)) :
    (s.putAll root path mode pairs).store.cells[h.index]? = s.cells[h.index]? := by
  rw [putAll]
  split
  · next parents hfind =>
    by_cases hsize : h.index < s.size
    · apply cells_runWrites
      intro w hw hparent
      have hmem := parent_mem_of_mem_writes hw
      rw [hparent] at hmem
      exact hout hsize ((holds_container_iff hsize).mp (holdsAll_of_find hfind _ hmem))
    · -- a write makes no cell for a handle that has none
      have hnone : ∀ t : Store, t.size = s.size → t.cells[h.index]? = none := fun t ht => by
        apply Array.getElem?_eq_none
        rw [size, size] at ht
        rw [ht]
        exact Nat.not_lt.mp hsize
      rw [hnone s rfl, hnone _ (size_runWrites s mode _)]
  · rfl

/-- The store after an edit of the document of a root, whether the edit succeeds or ends early. -/
inductive Edited (s : Store) (root : Value) : Store → Prop where
  | putAll (path : String) (mode : Mode) (pairs : List (Key × Value)) :
      Edited s root (s.putAll root path mode pairs).store
  | put (target : String) (v : Value) : Edited s root (s.put root target v).store
  | add (v : Value) : Edited s root (s.add root v).store

theorem Edited.cells_eq (hedited : s.Edited root t) (hout : h.index < s.size → ¬s.Within root h) :
    t.cells[h.index]? = s.cells[h.index]? := by
  -- all edits are writes into what a path finds
  cases hedited with
  | putAll path mode pairs => exact cells_putAll hout path mode pairs
  | put target v => exact cells_putAll hout _ _ _
  | add v => exact cells_putAll hout _ _ _

/-- What can be reached from a root that shares no container with the edited one stays as it is. -/
theorem Edited.agreesBelow {other : Value} (hedited : s.Edited root t)
    (hseparate : ∀ h, s.Within root h → ¬s.Within other h) : s.AgreesBelow other t := fun h hh =>
  hedited.cells_eq fun hsize hroot => hseparate h hroot ((holds_container_iff hsize).mp hh)

/-- Queries and edits are local, however containers are shared and also where they lie below
themselves.  What a path finds is the same in any store that agrees below the root, be it a result
or an error, and it is the root or lies directly in a container that can be reached from it.  An
edit, whether it succeeds or ends early, changes only containers that can be reached from the root;
so it changes no answer about a document that shares no container with the edited one. -/
theorem edited_separate (s : Store) (root : Value) :
    (∀ t, s.AgreesBelow root t → ∀ path, t.find root path = s.find root path) ∧
      (∀ path vs, s.find root path = .ok vs → ∀ v ∈ vs, s.Holds root v) ∧
      ∀ t, s.Edited root t →
        (∀ h, ¬s.Within root h → t.cells[h.index]? = s.cells[h.index]?) ∧
        ∀ other, (∀ h, s.Within root h → ¬s.Within other h) →
          (∀ path, t.find other path = s.find other path) ∧
          ∀ (session : Session) question,
            session.answer ⟨t, other⟩ question = session.answer ⟨s, other⟩ question := by
  refine ⟨fun t hagree path => (alike_find hagree path).eq, fun path vs => holdsAll_of_find,
    fun t hedited => ⟨fun h hout => hedited.cells_eq fun _ => hout, fun other hseparate => ?_⟩⟩
  have hagree := hedited.agreesBelow hseparate
  exact ⟨fun path => (alike_find hagree path).eq, answer_eq hagree⟩

/-- A document that lies below itself, and another one that is put into it. -/
theorem edited_separate_cycle :
    let s : Store := ⟨#[.object [("self", .container ⟨0⟩), ("list", .container ⟨1⟩)],
      .array [.integer 1], .object [("k", .integer 7)]]⟩
    let root : Value := .container ⟨0⟩
    let other : Value := .container ⟨2⟩
    let t := (s.put root "self.list.#" other).store
    (s.write ⟨2⟩ (.array [])).find root "..list" = s.find root "..list" ∧
      s.find root "list" = .ok [.container ⟨1⟩] ∧ s.Holds root (.container ⟨1⟩) ∧
      t.cells[2]? = s.cells[2]? ∧ t.find other "k" = .ok [.integer 7] := by
  intro s root other t
  -- the only container with others in it is the first one
  have hchild : ∀ g k, s.Child g k → g.index < 2 ∧ k.index < 2 := by
    rintro ⟨_ | _ | _ | i⟩ ⟨j⟩ ⟨-, hmem⟩
    case zero =>
      have hj : j = 0 ∨ j = 1 := by simpa [s, cell, Cell.children] using hmem
      exact ⟨by decide, show j < 2 by omega⟩
    case succ.succ.succ => exact absurd hmem List.not_mem_nil
    all_goals simp [s, cell, Cell.children] at hmem
  have hroot : ∀ h, s.Within root h → h.index < 2 := by
    rintro h ⟨r, hr, hreach⟩
    obtain rfl : (⟨0⟩ : Handle) = r := Value.container.inj hr
    rcases Relation.ReflTransGen.cases_tail hreach with rfl | ⟨g, -, hgh⟩
    · decide
    · exact (hchild g h hgh).2
  have hother : ∀ h, s.Within other h → h.index = 2 := by
    rintro h ⟨r, hr, hreach⟩
    obtain rfl : (⟨2⟩ : Handle) = r := Value.container.inj hr
    rcases Relation.ReflTransGen.cases_head hreach with rfl | ⟨k, hk, -⟩
    · rfl
    · exact absurd (hchild _ k hk).1 (by decide)
  have hseparate : ∀ h, s.Within root h → ¬s.Within other h := fun h hh ho => by
    have hlt := hroot h hh
    have heq := hother h ho
    omega
  have hagree : s.AgreesBelow root (s.write ⟨2⟩ (.array [])) := fun h hh => by
    apply Array.getElem?_setIfInBounds_ne
    intro heq
    have hsize : h.index < s.size := heq ▸ (by decide : 2 < s.size)
    have hlt := hroot h ((holds_container_iff hsize).mp hh)
    rw [← heq] at hlt
    exact absurd hlt (by decide)
  have hlist : s.find root "list" = .ok [.container ⟨1⟩] := by decide +kernel
  have hk : s.find other "k" = .ok [.integer 7] := by decide +kernel
  obtain ⟨hfind, hheld, hedit⟩ := edited_separate s root
  obtain ⟨hcells, hqueries⟩ := hedit t (.put "self.list.#" other)
  refine ⟨hfind _ hagree "..list", hlist, hheld "list" _ hlist _ (List.mem_singleton_self _),
    hcells ⟨2⟩ fun hh => absurd (hroot _ hh) (by decide), ?_⟩
  rw [(hqueries other hseparate).1 "k", hk]

end DocQuery.Store
