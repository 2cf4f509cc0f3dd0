import Mathlib
import DocQuery.Session.Run

/-!
# Tidy Stores

No container of a session ever holds an absent value, and the members of every object have
distinct names.  Absent values come in through JSON texts, descriptions, projections of tables and
writes; each of them drops what is absent before it makes or changes a container.

A session makes containers by `newArray` and `newObject` only, and changes them by `insert` only.
Each of the three keeps a store tidy, and so does every operation that is built from them.

## Main definitions

- `Cell.Tidy`, `Store.Tidy`: nothing absent, and no name twice

## Main statements

- `Store.tidy_load`, `Session.Spec.tidy_build`: making values keeps a store tidy
- `Store.tidy_runWrites`: so do writes, wherever they end
- `Session.tidy_step`, `Session.tidy_run`: so does every step of a session
- `Session.tidy_of_mem_run`: sessions that start with nothing are tidy all along
-/

namespace DocQuery

open DocQuery.Edit DocQuery.Session
open DocQuery.Json (Members Tree)

/-- A container holds nothing absent, and an object has no two members of one name. -/
structure Cell.Tidy (c : Cell) : Prop where
  present : Value.null ∉ c.children
  distinct : ∀ members, c = .object members → members.names.Nodup

/-- All containers of the store are tidy. -/
def Store.Tidy (s : Store) : Prop := ∀ h, (s.cell h).Tidy

variable {s t : Store} {h : Handle} {c : Cell} {v : Value}

/-! ## Cells -/

namespace Cell

theorem tidy_array {items : List Value} (h : Value.null ∉ items) : (Cell.array items).Tidy where
  present := h
  distinct := by
    intro members hcell
    cases hcell

theorem tidy_object {members : Members Value} (hvalues : Value.null ∉ members.values)
    (hnames : members.names.Nodup) : (Cell.object members).Tidy where
  present := hvalues
  distinct := by
    rintro _ ⟨⟩
    exact hnames

theorem tidy_writeItem {items : List Value} (h : Value.null ∉ items) (mode : Mode)
    (position : Option Int64) (v : Value) :
    (Cell.array (writeItem mode items position v)).Tidy := by
  apply tidy_array
  unfold writeItem
  split
  · exact h
  · next hv =>
    have hne : Value.null ≠ v := by
      rintro rfl
      exact hv rfl
    have hend : Value.null ∉ items ++ [v] := by
      simp [h, hne]
    split
    · split
      · next hplace =>
        intro hmem
        rcases List.eq_or_mem_of_mem_insertIdx hmem with heq | hold
        · exact hne heq
        · exact h hold
      · exact hend
    · exact hend

theorem tidy_writeMember {members : Members Value} (h : (Cell.object members).Tidy) (mode : Mode)
    (name : String) (v : Value) : (Cell.object (writeMember mode members name v)).Tidy := by
  have hnames := h.distinct members rfl
  unfold writeMember
  split
  · exact h
  · split
    · -- an absent value takes the member out
      apply tidy_object _ (Members.nodup_remove hnames name)
      intro hmem
      obtain ⟨m, hm, hnull⟩ := List.mem_map.mp hmem
      apply h.present
      show Value.null ∈ members.map Prod.snd
      rw [← hnull]
      exact List.mem_map_of_mem (List.mem_of_mem_filter hm)
    · next hv =>
      apply tidy_object _ (Members.nodup_set hnames name v)
      intro hmem
      obtain ⟨m, hm, hnull⟩ := List.mem_map.mp hmem
      rcases Members.mem_set hm with rfl | hold
      · apply hv
        rw [show v = .null from hnull]
        rfl
      · apply h.present
        show Value.null ∈ members.map Prod.snd
        rw [← hnull]
        exact List.mem_map_of_mem hold

/-- Every write that succeeds leaves a tidy container behind. -/
theorem tidy_writeCell {d : Cell} {mode : Mode} {key : Key} (hc : c.Tidy)
    (hwrite : writeCell mode c key v = .ok d) : d.Tidy := by
  rcases exists_of_writeCell hwrite with
    ⟨items, position, rfl, -, rfl⟩ | ⟨members, name, rfl, -, rfl⟩
  · exact tidy_writeItem hc.present mode position v
  · exact tidy_writeMember hc mode name v

end Cell

/-! ## Stores -/

namespace Store

theorem tidy_empty : Tidy {} := fun _ => Cell.tidy_array List.not_mem_nil

theorem tidy_alloc (hs : s.Tidy) (hc : c.Tidy) : (s.alloc c).2.Tidy := by
  rintro ⟨i⟩
  rcases Nat.lt_trichotomy i s.size with hlt | rfl | hgt
  · rw [cell_alloc_of_lt hlt]
    exact hs _
  · rw [cell_alloc_self]
    exact hc
  · -- a handle without a cell stays one
    have hnone : (s.alloc c).2.cells[i]? = none := by
      apply Array.getElem?_eq_none
      show (s.alloc c).2.size ≤ i
      rw [size_alloc]
      exact hgt
    rw [cell, hnone]
    exact Cell.tidy_array List.not_mem_nil

theorem tidy_write (hs : s.Tidy) (h : Handle) (hc : c.Tidy) : (s.write h c).Tidy := by
  intro g
  by_cases hg : g = h
  · subst hg
    by_cases hlt : g.index < s.size
    · rw [cell_write_self hlt]
      exact hc
    · have hsame : s.write g c = s := by
        rw [write, Array.setIfInBounds_eq_of_size_le (Nat.not_lt.mp hlt)]
      rw [hsame]
      exact hs g
  · rw [cell_write_of_ne hg]
    exact hs g

/-! ### Making containers -/

theorem tidy_newArray (hs : s.Tidy) (items : List Value) : (s.newArray items).2.Tidy := by
  apply tidy_alloc hs
  apply Cell.tidy_array
  simp [Value.isNull]

theorem tidy_newObject (hs : s.Tidy) (members : List (String × Value)) :
    (s.newObject members).2.Tidy := by
  apply tidy_alloc hs
  apply Cell.tidy_object _ (Members.nodup_ofPairs _)
  intro hmem
  have hnull := Members.mem_values_ofPairs hmem
  simp [Value.isNull] at hnull

theorem tidy_collapse (hs : s.Tidy) (results : List Value) : (s.collapse results).2.Tidy := by
  unfold collapse
  split
  · exact hs
  · exact tidy_newArray hs _

mutual

theorem tidy_load {s : Store} (hs : s.Tidy) : ∀ tree, (s.load tree).2.Tidy
  | .null | .bool _ | .number _ | .string _ => hs
  | .array items => tidy_newArray (tidy_loadItems hs items) _
  | .object members => tidy_newObject (tidy_loadMembers hs members) _

theorem tidy_loadItems {s : Store} (hs : s.Tidy) : ∀ items, (s.loadItems items).2.Tidy
  | [] => hs
  | item :: items => tidy_loadItems (tidy_load hs item) items

theorem tidy_loadMembers {s : Store} (hs : s.Tidy) : ∀ members, (s.loadMembers members).2.Tidy
  | [] => hs
  | (_, member) :: members => tidy_loadMembers (tidy_load hs member) members

end

theorem tidy_loadText (hs : s.Tidy) {text : String} (hload : s.loadText? text = some (v, t)) :
    t.Tidy := by
  obtain ⟨tree, -, htree⟩ := Option.map_eq_some_iff.mp hload
  rw [show t = (s.load tree).2 by rw [htree]]
  exact tidy_load hs tree

/-! ### Writing -/

theorem tidy_insert (hs : s.Tidy) {mode : Mode} {w : Write} (hinsert : s.insert mode w = .ok t) :
    t.Tidy := by
  obtain ⟨h, cell, -, hcell, rfl⟩ := exists_of_insert hinsert
  exact tidy_write hs h (Cell.tidy_writeCell (hs h) hcell)

/-- Writes keep a store tidy, also if one of them fails. -/
theorem tidy_runWrites (hs : s.Tidy) (mode : Mode) (ws : List Write) :
    (s.runWrites mode ws).store.Tidy := by
  -- on the writes; the first one that fails leaves the store as it found it
  induction ws generalizing s with
  | nil => exact hs
  | cons w ws ih =>
    rw [runWrites]
    split
    · next t hinsert => exact ih (tidy_insert hs hinsert)
    · exact hs

theorem tidy_putAll (hs : s.Tidy) (root : Value) (path : String) (mode : Mode)
    (pairs : List (Key × Value)) : (s.putAll root path mode pairs).store.Tidy := by
  unfold putAll
  split
  · exact tidy_runWrites hs mode _
  · exact hs

theorem tidy_put (hs : s.Tidy) (root : Value) (target : String) (v : Value) :
    (s.put root target v).store.Tidy := by
  unfold put putIn
  exact tidy_putAll hs root _ _ _

end Store

/-! ## Tables -/

namespace Document

theorem tidy_newRows (hs : s.Tidy) (rows : List (List (String × Value))) :
    (newRows s rows).2.Tidy := by
  induction rows generalizing s with
  | nil => exact hs
  | cons members rows ih => exact ih (Store.tidy_newObject hs members)

theorem tidy_select {d : Document} (hd : d.store.Tidy) (columns : List String) :
    (d.select columns).store.Tidy :=
  Store.tidy_collapse (tidy_newRows hd _) _

end Document

/-! ## Descriptions -/

namespace Session

/-- A row of two computations succeeds when both do. -/
theorem bind_eq_ok {ε α β : Type} {x : Except ε α} {f : α → Except ε β} {b : β} :
    (x >>= f) = .ok b ↔ ∃ a, x = .ok a ∧ f a = .ok b := by
  cases x <;> simp [bind, Except.bind]

namespace Spec

variable {roots : Members Value}

mutual

theorem tidy_build {s : Store} (hs : s.Tidy) : ∀ (spec : Spec) {v : Value} {t : Store},
    build roots s spec = .ok (v, t) → t.Tidy
  | .json text, v, t, hbuild => by
    rw [build] at hbuild
    split at hbuild
    · next hload =>
      cases hbuild
      exact Store.tidy_loadText hs hload
    · cases hbuild
  | .root name, v, t, hbuild => by
    rw [build] at hbuild
    split at hbuild
    · cases hbuild
      exact hs
    · cases hbuild
  | .null, _, _, rfl | .bool _, _, _, rfl | .integer _, _, _, rfl | .float _, _, _, rfl
  | .string _, _, _, rfl => hs
  | .array items, v, t, hbuild => by
    rw [build] at hbuild
    obtain ⟨⟨values, u⟩, hitems, hmake⟩ := bind_eq_ok.mp hbuild
    cases hmake
    exact Store.tidy_newArray (tidy_buildItems hs items hitems) values
  | .object members, v, t, hbuild => by
    rw [build] at hbuild
    obtain ⟨⟨values, u⟩, hmembers, hmake⟩ := bind_eq_ok.mp hbuild
    cases hmake
    exact Store.tidy_newObject (tidy_buildMembers hs members hmembers) values

theorem tidy_buildItems {s : Store} (hs : s.Tidy) :
    ∀ (items : List Spec) {values : List Value} {t : Store},
      buildItems roots s items = .ok (values, t) → t.Tidy
  | [], _, _, rfl => hs
  | item :: items, values, t, hbuild => by
    rw [buildItems] at hbuild
    obtain ⟨⟨v, u⟩, hitem, hbuild⟩ := bind_eq_ok.mp hbuild
    obtain ⟨⟨vs, w⟩, hitems, hmake⟩ := bind_eq_ok.mp hbuild
    cases hmake
    exact tidy_buildItems (tidy_build hs item hitem) items hitems

theorem tidy_buildMembers {s : Store} (hs : s.Tidy) :
    ∀ (members : List (String × Spec)) {values : List (String × Value)} {t : Store},
      buildMembers roots s members = .ok (values, t) → t.Tidy
  | [], _, _, rfl => hs
  | (name, member) :: members, values, t, hbuild => by
    rw [buildMembers] at hbuild
    obtain ⟨⟨v, u⟩, hmember, hbuild⟩ := bind_eq_ok.mp hbuild
    obtain ⟨⟨vs, w⟩, hmembers, hmake⟩ := bind_eq_ok.mp hbuild
    cases hmake
    exact tidy_buildMembers (tidy_build hs member hmember) members hmembers

end

theorem tidy_buildPairs {κ : Type} (hs : s.Tidy) {pairs : List (κ × Spec)}
    {values : List (κ × Value)} (hbuild : buildPairs roots s pairs = .ok (values, t)) :
    t.Tidy := by
  induction pairs generalizing s t values with
  | nil =>
    cases hbuild
    exact hs
  | cons pair pairs ih =>
    obtain ⟨key, spec⟩ := pair
    rw [buildPairs] at hbuild
    obtain ⟨⟨v, u⟩, hvalue, hbuild⟩ := bind_eq_ok.mp hbuild
    obtain ⟨⟨vs, w⟩, hpairs, hmake⟩ := bind_eq_ok.mp hbuild
    cases hmake
    exact ih (tidy_build hs spec hvalue) hpairs

end Spec

/-! ## Steps -/

variable {session : Session}

theorem eq_of_orSpecFailure {α : Type} {x : Except SpecError α} {a : α}
    (h : orSpecFailure x = .ok a) : x = .ok a := by
  cases x with
  | error e => cases h
  | ok b =>
    cases h
    rfl

theorem store_of_document {name : String} {d : Document} (hd : session.document name = .ok d) :
    d.store = session.store := by
  unfold document at hd
  split at hd
  · cases hd
    rfl
  · cases hd

/-- Documents are made in a tidy way. -/
theorem tidy_build (hs : session.store.Tidy) {making : Making} {d : Document}
    (hbuild : session.build making = .ok d) : d.store.Tidy := by
  -- a text and a description make new containers, `get`, `select` and `matching` collapse what they
  -- find, and nothing else is written
  cases making with
  | load text =>
    rw [build] at hbuild
    split at hbuild
    · next e hload =>
      cases hbuild
      obtain ⟨result, hresult, rfl⟩ := Option.map_eq_some_iff.mp hload
      exact Store.tidy_loadText hs hresult
    · cases hbuild
  | empty =>
    cases hbuild
    exact hs
  | make spec =>
    obtain ⟨result, hspec, hmake⟩ := bind_eq_ok.mp hbuild
    cases hmake
    exact Spec.tidy_build hs spec (eq_of_orSpecFailure hspec)
  | get name path =>
    obtain ⟨e, hdocument, hget⟩ := bind_eq_ok.mp hbuild
    have hstore := store_of_document (eq_of_orSpecFailure hdocument)
    unfold Document.get at hget
    cases hfind : e.find path with
    | error failure => rw [hfind] at hget; cases hget
    | ok results =>
      rw [hfind] at hget
      cases hget
      rw [← hstore] at hs
      exact Store.tidy_collapse hs results
  | select name columns =>
    obtain ⟨e, hdocument, hselect⟩ := bind_eq_ok.mp hbuild
    cases hselect
    rw [← store_of_document (eq_of_orSpecFailure hdocument)] at hs
    exact Document.tidy_select hs columns
  | matching name condition arguments =>
    obtain ⟨e, hdocument, hbuild⟩ := bind_eq_ok.mp hbuild
    obtain ⟨⟨values, t⟩, harguments, hmatching⟩ := bind_eq_ok.mp hbuild
    cases hmatching
    exact Store.tidy_collapse (Spec.tidy_buildItems hs arguments (eq_of_orSpecFailure harguments)) _

/-- Changes keep a store tidy, also if they fail midway. -/
theorem tidy_outcome {d : Document} (hd : d.store.Tidy) {change : Change} {outcome : Outcome}
    (houtcome : session.outcome d change = .ok outcome) : outcome.store.Tidy := by
  cases change with
  | put target spec =>
    obtain ⟨⟨v, t⟩, hspec, hput⟩ := bind_eq_ok.mp houtcome
    cases hput
    exact Store.tidy_put (Spec.tidy_build hd spec hspec) d.root target v
  | add spec =>
    obtain ⟨⟨v, t⟩, hspec, hadd⟩ := bind_eq_ok.mp houtcome
    cases hadd
    exact Store.tidy_putAll (Spec.tidy_build hd spec hspec) d.root _ _ _
  | putAll path mode pairs =>
    obtain ⟨⟨values, t⟩, hpairs, hput⟩ := bind_eq_ok.mp houtcome
    cases hput
    exact Store.tidy_putAll (Spec.tidy_buildPairs hd hpairs) d.root path mode values

/-- A step keeps a store tidy, whether it succeeds or not. -/
theorem tidy_step (hs : session.store.Tidy) (request : Request) :
    (session.step request).2.store.Tidy := by
  cases request with
  | define making name? =>
    rw [step]
    split
    · next d hbuild => exact tidy_build hs hbuild
    · exact hs
  | ask name question =>
    rw [step]
    split <;> exact hs
  | change name change =>
    rw [step]
    split
    · next d hdocument =>
      rw [← store_of_document hdocument] at hs
      split
      · next houtcome => exact tidy_outcome hs houtcome
      · next houtcome => exact tidy_outcome hs houtcome
      · rw [← store_of_document hdocument]
        exact hs
    · exact hs

/-- A session that starts tidy stays tidy. -/
theorem tidy_run (hs : session.store.Tidy) (requests : List Request) :
    ∀ result ∈ session.run requests, result.2.store.Tidy := by
  induction requests generalizing session with
  | nil => exact fun _ hmem => absurd hmem List.not_mem_nil
  | cons request requests ih =>
    intro result hmem
    rcases List.mem_cons.mp hmem with rfl | hrest
    · exact tidy_step hs request
    · exact ih (tidy_step hs request) result hrest

/-- After every step of a session that starts with nothing, also after one that failed, no
container holds an absent value and no object has two members of one name. -/
theorem tidy_of_mem_run {requests : List Request} {result : Except Failure Answer × Session}
    (hresult : result ∈ Session.run {} requests) : result.2.store.Tidy :=
  tidy_run Store.tidy_empty requests result hresult

/-- An edit that writes an absent value and a number before it fails. -/
theorem tidy_of_mem_run_failing :
    ∃ result ∈ Session.run {} [
        .define (.load "\x7b\"a\": [1, null], \"b\": null\x7d") (some "d"),
        .define (.make (.array [.null, .root "d", .object [("x", .null), ("x", .bool true)]]))
          (some "e"),
        .change "e" (.putAll "" .replace
          [(.append, .null), (.append, .integer 3), (.name "k", .null)])],
      result.1.isOk = false ∧
        result.2.store.cells = #[.array [.integer 1], .object [("a", .container ⟨0⟩)],
          .object [("x", .bool true)],
          .array [.container ⟨1⟩, .container ⟨2⟩, .integer 3]] ∧
        result.2.store.Tidy := by
  have hlast : ((Session.run {} [
        .define (.load "\x7b\"a\": [1, null], \"b\": null\x7d") (some "d"),
        .define (.make (.array [.null, .root "d", .object [("x", .null), ("x", .bool true)]]))
          (some "e"),
        .change "e" (.putAll "" .replace
          [(.append, .null), (.append, .integer 3), (.name "k", .null)])])[2]?).map
        (fun result => (result.1.isOk, result.2.store.cells)) =
      some (false, #[.array [.integer 1], .object [("a", .container ⟨0⟩)],
        .object [("x", .bool true)],
        .array [.container ⟨1⟩, .container ⟨2⟩, .integer 3]]) := by decide +kernel
  obtain ⟨result, hget, hresult⟩ := Option.map_eq_some_iff.mp hlast
  obtain ⟨hfails, hcells⟩ := Prod.mk.inj hresult
  have hmem := List.mem_of_getElem? hget
  exact ⟨result, hmem, hfails, hcells, tidy_of_mem_run hmem⟩

end Session

end DocQuery
