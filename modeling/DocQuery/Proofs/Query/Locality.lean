import Mathlib
import DocQuery.Proofs.Query.Search
import DocQuery.Proofs.Store.Unfolding
import DocQuery.Query.Find

/-!
# Queries Are Local

What a path finds from a root depends only on the containers that can be reached from it, and what
it finds is the root or lies directly in one of them.  This holds for an error as for a result.

Both are shown together, segment by segment: a segment looks at nothing but the cells of what is
held, so the next one starts from the same values in both stores.  The text of a value is local in
the same way.

## Main definitions

- `Within`: a container can be reached from a root
- `Holds`, `HoldsAll`: a value is the root or lies directly in such a container
- `AgreesBelow`: two stores have the same containers below a root
- `Alike`: two computations end in the same way

## Main statements

- `alike_apply`, `alike_runSegments`: what one segment and a row of segments find
- `alike_find`: what a path finds
- `toTreeFrom_eq`, `display_eq`: the tree and the text of a value
-/

namespace DocQuery.Store

open DocQuery.Path

variable {s t : Store} {root v w : Value} {g h : Handle}

/-! ## What a root holds -/

/-- The container can be reached from the root. -/
def Within (s : Store) (root : Value) (h : Handle) : Prop :=
  ∃ r, root = .container r ∧ s.Reaches r h

/-- The value is the root itself or lies directly in a container that can be reached from it. -/
def Holds (s : Store) (root v : Value) : Prop :=
  v = root ∨ ∃ g, s.Within root g ∧ v ∈ (s.cell g).children

/-- All of the values are held. -/
def HoldsAll (s : Store) (root : Value) (vs : List Value) : Prop := ∀ v ∈ vs, s.Holds root v

theorem holdsAll_nil (s : Store) (root : Value) : s.HoldsAll root [] :=
  fun _ h => absurd h List.not_mem_nil

/-- The containers of the store that are held are those that can be reached. -/
theorem holds_container_iff (hsize : g.index < s.size) :
    s.Holds root (.container g) ↔ s.Within root g := by
  constructor
  · rintro (rfl | ⟨k, ⟨r, rfl, hreach⟩, hmem⟩)
    · exact ⟨g, rfl, .refl⟩
    · exact ⟨r, rfl, hreach.tail ⟨hsize, hmem⟩⟩
  · rintro ⟨r, rfl, hreach⟩
    rcases Relation.ReflTransGen.cases_tail hreach with rfl | ⟨k, hk, hchild⟩
    · exact .inl rfl
    · exact .inr ⟨k, ⟨r, rfl, hk⟩, hchild.2⟩

theorem Holds.child (hg : s.Holds root (.container g)) (hv : v ∈ (s.cell g).children) :
    s.Holds root v :=
  .inr ⟨g, (holds_container_iff (lt_size_of_mem_children hv)).mp hg, hv⟩

theorem Holds.of_reaches (hg : s.Holds root (.container g)) (hreach : s.Reaches g h) :
    s.Holds root (.container h) := by
  induction hreach with
  | refl => exact hg
  | tail _ hchild ih => exact ih.child hchild.2

theorem Holds.of_mem_children (hv : s.Holds root v) (hw : w ∈ s.children v) : s.Holds root w := by
  cases v with
  | container g => exact hv.child hw
  | _ => cases hw

theorem Holds.of_member? {name : String} (hv : s.Holds root v)
    (hw : s.member? v name = some w) : s.Holds root w := by
  cases v with
  | container g =>
    rw [member?] at hw
    cases hcell : s.cell g with
    | object members =>
      rw [hcell] at hw
      apply hv.child
      rw [hcell]
      exact Json.Members.mem_values_of_get? hw
    | array items => rw [hcell] at hw; cases hw
  | _ => cases hw

theorem Holds.of_mem_entries {e : String × Value} (hv : s.Holds root v) (he : e ∈ s.entries v) :
    s.Holds root e.2 := by
  cases v with
  | container g =>
    apply hv.child
    rw [← Cell.map_snd_entries]
    exact List.mem_map_of_mem he
  | _ => cases he

/-! ## Stores that agree below a root -/

/-- The other store has the same cells for all containers that can be reached from the root, and
none for the handles there that have none. -/
def AgreesBelow (s : Store) (root : Value) (t : Store) : Prop :=
  ∀ h, s.Holds root (.container h) → t.cells[h.index]? = s.cells[h.index]?

namespace AgreesBelow

theorem refl (s : Store) (root : Value) : s.AgreesBelow root s := fun _ _ => rfl

variable (hagree : s.AgreesBelow root t)

include hagree

theorem cell_eq (hg : s.Holds root (.container g)) : t.cell g = s.cell g := by
  rw [cell, cell, hagree g hg]

theorem lt_size_iff (hg : s.Holds root (.container g)) : g.index < t.size ↔ g.index < s.size := by
  rw [size, size, ← not_le, ← not_le, ← Array.getElem?_eq_none_iff, ← Array.getElem?_eq_none_iff,
    hagree g hg]

variable (hv : s.Holds root v)

include hv

theorem entries_eq : t.entries v = s.entries v := by
  cases v with
  | container g => simp only [entries, hagree.cell_eq hv]
  | _ => rfl

theorem children_eq : t.children v = s.children v := by
  cases v with
  | container g => simp only [children, hagree.cell_eq hv]
  | _ => rfl

theorem member?_eq (name : String) : t.member? v name = s.member? v name := by
  cases v with
  | container g => simp only [member?, hagree.cell_eq hv]
  | _ => rfl

theorem isArray_eq : t.isArray v = s.isArray v := by
  cases v with
  | container g => simp only [isArray, hagree.cell_eq hv]
  | _ => rfl

theorem length?_eq : t.length? v = s.length? v := by
  cases v with
  | container g => simp only [length?, hagree.cell_eq hv]
  | _ => rfl

theorem isObject_eq : t.isObject v = s.isObject v := by
  cases v with
  | container g => simp only [isObject, hagree.cell_eq hv]
  | _ => rfl

end AgreesBelow

/-! ## Computations that end in the same way -/

/-- Two computations end with the same error, or with the same result, and this satisfies `P`. -/
inductive Alike {α : Type} (P : α → Prop) : Except QueryError α → Except QueryError α → Prop where
  | ok {a : α} (h : P a) : Alike P (.ok a) (.ok a)
  | error (e : QueryError) : Alike P (.error e) (.error e)

namespace Alike

variable {α β : Type} {P : α → Prop} {Q : β → Prop} {x y : Except QueryError α}

theorem eq (h : Alike P x y) : x = y := by cases h <;> rfl

theorem of_ok {a : α} (h : Alike P x (.ok a)) : P a := by
  cases h with
  | ok ha => exact ha

theorem of_forall (h : ∀ a, x = .ok a → P a) : Alike P x x := by
  cases x with
  | ok a => exact .ok (h a rfl)
  | error e => exact .error e

theorem bind {f f' : α → Except QueryError β} (h : Alike P x y)
    (hf : ∀ a, P a → Alike Q (f a) (f' a)) : Alike Q (x >>= f) (y >>= f') := by
  cases h with
  | ok ha => exact hf _ ha
  | error e => exact .error e

theorem map {f f' : α → β} (h : Alike P x y) (hf : ∀ a, P a → f a = f' a)
    (hQ : ∀ a, P a → Q (f' a)) : Alike Q (x.map f) (y.map f') := by
  cases h with
  | @ok a ha =>
    simp only [Except.map, hf a ha]
    exact .ok (hQ a ha)
  | error e => exact .error e

theorem map_eq {f f' : α → β} (h : Alike P x y) (hf : ∀ a, P a → f a = f' a) :
    x.map f = y.map f' :=
  (h.map hf fun _ _ => trivial : Alike (fun _ => True) _ _).eq

end Alike

/-! ## Walks -/

section Walk

variable (hagree : s.AgreesBelow root t)

include hagree

theorem alike_stepName (hv : s.Holds root v) (name : String) :
    Alike (fun hit => ∀ w ∈ hit, s.Holds root w) (t.stepName v name) (s.stepName v name) := by
  cases v with
  | container g =>
    have heq : t.stepName (.container g) name = s.stepName (.container g) name := by
      simp only [stepName, hagree.cell_eq hv]
    rw [heq]
    refine .of_forall fun _ hstep w hw => ?_
    cases hw
    exact hv.child (mem_children_of_stepName hstep)
  | _ => exact .ok fun w hw => absurd hw (Option.not_mem_none w)

theorem alike_walk (hv : s.Holds root v) (names : List String) :
    Alike (fun hit => ∀ w ∈ hit, s.Holds root w) (t.walk v names) (s.walk v names) := by
  -- on the names; the hit of a step is held, and the walk goes on from there
  induction names generalizing v with
  | nil =>
    refine .ok fun w hw => ?_
    cases hw
    exact hv
  | cons name names ih =>
    refine (alike_stepName hagree hv name).bind fun hit hhit => ?_
    cases hit with
    | none => exact .ok fun w hw => absurd hw (Option.not_mem_none w)
    | some next => exact ih (hhit next rfl)

theorem alike_navigate (hv : s.Holds root v) (names : List String) :
    Alike (fun hit => ∀ w ∈ hit, s.Holds root w) (t.navigate names v) (s.navigate names v) := by
  refine (alike_walk hagree hv names).bind fun _ hhit => .ok fun w hw => ?_
  exact hhit w (Option.mem_filter_iff.mp hw).1

/-- The hit of a walk as a list. -/
theorem alike_navigate_toList (hv : s.Holds root v) (names : List String) :
    Alike (s.HoldsAll root) ((t.navigate names v).map Option.toList)
      ((s.navigate names v).map Option.toList) :=
  (alike_navigate hagree hv names).map (fun _ _ => rfl) fun _ hhit w hw =>
    hhit w (Option.mem_toList.mp hw)

end Walk

/-! ## Searches -/

section Search

variable (hagree : s.AgreesBelow root t)

include hagree

theorem schedule_eq {children : List Value} (hchildren : s.HoldsAll root children)
    (state : List Handle × List Handle) :
    t.schedule children state = s.schedule children state := by
  induction children with
  | nil => rfl
  | cons child children ih =>
    have hrest := ih fun v hv => hchildren v (List.mem_cons_of_mem child hv)
    cases child with
    | container k =>
      -- whether the child has a cell is the same in both stores, since it is held
      have hsize := hagree.lt_size_iff (hchildren _ List.mem_cons_self)
      simp only [schedule_cons, hrest, hsize]
    | _ => exact hrest

/-- A search goes the same way if all containers on the stack are held. -/
theorem visitFrom_eq {stack : List Handle} (hstack : ∀ h ∈ stack, s.Holds root (.container h))
    (seen : List Handle) : t.visitFrom stack seen = s.visitFrom stack seen := by
  -- along the search in the first store: what goes on the stack lies in a container that was on it
  induction stack, seen using visitFrom.induct s with
  | case1 seen => rw [visitFrom, visitFrom]
  | case2 seen k rest ih =>
    have hk : s.Holds root (.container k) := hstack k List.mem_cons_self
    have hschedule : t.schedule (t.cell k).children (rest, seen) =
        s.schedule (s.cell k).children (rest, seen) := by
      rw [hagree.cell_eq hk]
      exact schedule_eq hagree (fun v hv => hk.child hv) _
    have hnext : ∀ h ∈ (s.schedule (s.cell k).children (rest, seen)).1,
        s.Holds root (.container h) := by
      obtain ⟨fresh, heq, -, hsublist, -, -⟩ := exists_schedule s (s.cell k).children rest seen
      rw [heq]
      intro h hh
      rcases List.mem_append.mp hh with hh | hh
      · exact hk.child (mem_containers.mp (hsublist.subset hh)).2
      · exact hstack h (List.mem_cons_of_mem k hh)
    rw [visitFrom, visitFrom, hschedule, ih hnext]

theorem harvest_eq (names : Option (List String)) (hg : s.Holds root (.container g)) :
    t.harvest names g = s.harvest names g := by
  cases names with
  | some names => simp only [harvest, (alike_navigate hagree hg names).eq]
  | none => simp only [harvest, hagree.cell_eq hg]

/-- What lies in a container is held with it. -/
theorem holds_of_mem_harvest {names : Option (List String)} (hg : s.Holds root (.container g))
    (hv : v ∈ s.harvest names g) : s.Holds root v := by
  cases names with
  | some names =>
    rw [harvest_some, Option.mem_toList, hit?] at hv
    have halike := alike_navigate hagree hg names
    cases hnavigate : s.navigate names (.container g) with
    | ok hit =>
      rw [hnavigate] at hv halike
      exact halike.of_ok v hv
    | error e => rw [hnavigate] at hv; cases hv
  | none =>
    rcases List.mem_cons.mp hv with rfl | hv
    · exact hg
    · exact hg.child (List.mem_filter.mp hv).1

theorem alike_descend (hv : s.Holds root v) (names : Option (List String)) :
    Alike (s.HoldsAll root) (.ok (t.descend names v))
      (.ok (s.descend names v)) := by
  cases v with
  | container g =>
    have hvisit : t.visit g = s.visit g :=
      visitFrom_eq hagree (fun h hh => by rwa [List.mem_singleton.mp hh]) [g]
    have hheld : ∀ h ∈ s.visit g, s.Holds root (.container h) := fun h hh =>
      hv.of_reaches (mem_visit_iff.mp hh)
    have heq : t.descend names (.container g) = s.descend names (.container g) := by
      simp only [descend, Value.handle?, hvisit]
      exact List.flatMap_congr fun h hh => harvest_eq hagree names (hheld h hh)
    rw [heq]
    refine .ok fun w hw => ?_
    obtain ⟨h, hh, hw⟩ := List.mem_flatMap.mp hw
    exact holds_of_mem_harvest hagree (hheld h hh) hw
  | _ => exact .ok (holdsAll_nil s root)

end Search

/-! ## Selections and filters -/

theorem alike_pick {α : Type} (items : List α) (piece : SlicePiece) :
    Alike (fun picked => ∀ a ∈ picked, a ∈ items) (Slice.pick items piece)
      (Slice.pick items piece) := by
  cases piece with
  | index n =>
    rw [Slice.pick]
    split
    · next item hitem =>
      refine .ok fun a ha => ?_
      rw [List.mem_singleton.mp ha]
      exact List.mem_of_getElem? hitem
    · exact .error _
  | range start stop => exact .ok fun a ha => List.mem_of_mem_take (List.mem_of_mem_drop ha)

/-- Slices pick what is there. -/
theorem alike_slice {α : Type} (items : List α) (pieces : List SlicePiece) :
    Alike (fun picked => ∀ a ∈ picked, a ∈ items) (Slice.select items pieces)
      (Slice.select items pieces) := by
  have hnone : ∀ a ∈ ([] : List α), a ∈ items := fun a ha => absurd ha List.not_mem_nil
  rw [Slice.select]
  split
  · exact .ok hnone
  · induction pieces with
    | nil => exact .ok hnone
    | cons piece pieces ih =>
      refine (alike_pick items piece).bind fun picked hpicked => ih.bind fun more hmore => .ok ?_
      intro a ha
      rcases List.mem_append.mp ha with ha | ha
      · exact hpicked a ha
      · exact hmore a ha

section Select

variable (hagree : s.AgreesBelow root t)

include hagree

theorem alike_select (selector : Selector) (hv : s.Holds root v) :
    Alike (s.HoldsAll root) (t.select selector v) (s.select selector v) := by
  unfold select
  split
  · exact .ok (holdsAll_nil s root)
  · cases selector with
    | all =>
      simp only [hagree.children_eq hv]
      exact .ok fun w hw => hv.of_mem_children hw
    | slices pieces =>
      simp only [hagree.children_eq hv]
      refine .of_forall fun vs hvs w hw => hv.of_mem_children ?_
      have halike := alike_slice (s.children v) pieces
      rw [hvs] at halike
      exact halike.of_ok w hw
    -- a key is looked up as a single name is
    | key name => exact alike_navigate_toList hagree hv [name]

theorem alike_matchKeys (p : Pattern) (hv : s.Holds root v) :
    Alike (s.HoldsAll root) (.ok (t.matchKeys p v)) (.ok (s.matchKeys p v)) := by
  rw [matchKeys, matchKeys, hagree.entries_eq hv]
  refine .ok fun w hw => ?_
  obtain ⟨e, he, rfl⟩ := List.mem_map.mp hw
  exact hv.of_mem_entries (List.mem_filter.mp he).1

/-- Whether an element is kept depends on its own members only. -/
theorem test_eq (expression key : String) (hv : s.Holds root v) :
    t.test expression key v = s.test expression key v := by
  have hreferent : t.referent? key v = s.referent? key v := by
    funext name
    simp only [referent?, hagree.isObject_eq hv, hagree.member?_eq hv]
  simp only [test, instantiate?, hreferent]

theorem alike_filter (expression : String) (hv : s.Holds root v) :
    Alike (s.HoldsAll root) (.ok (t.filter expression v))
      (.ok (s.filter expression v)) := by
  cases v with
  | container g =>
    unfold filter
    simp only [hagree.cell_eq hv, test_eq hagree expression "" hv]
    cases hcell : s.cell g with
    | array items =>
      have hentries : ∀ e ∈ (s.cell g).entries, s.Holds root e.2 := fun e he =>
        hv.of_mem_entries he
      rw [hcell] at hentries
      have heq : (Cell.array items).entries.filter
            (fun e => !t.isArray e.2 && t.test expression e.1 e.2) =
          (Cell.array items).entries.filter
            (fun e => !s.isArray e.2 && s.test expression e.1 e.2) :=
        List.filter_congr fun e he => by
          rw [hagree.isArray_eq (hentries e he), test_eq hagree _ _ (hentries e he)]
      simp only [heq]
      refine .ok fun w hw => ?_
      obtain ⟨e, he, rfl⟩ := List.mem_map.mp hw
      exact hentries e (List.mem_filter.mp he).1
    | object members =>
      dsimp only
      split
      · exact .ok fun w hw => by rwa [List.mem_singleton.mp hw]
      · exact .ok (holdsAll_nil s root)
  | _ => exact .ok (holdsAll_nil s root)

/-! ## Paths -/

/-- What a segment finds from one value. -/
theorem alike_apply (segment : Segment) (hv : s.Holds root v) :
    Alike (s.HoldsAll root) (t.apply segment v) (s.apply segment v) := by
  cases segment with
  | plain names => exact alike_navigate_toList hagree hv names
  | glob pattern =>
    -- the store has no part in compiling the pattern
    rw [apply, apply]
    cases Glob.compile? pattern with
    | some p => exact alike_matchKeys hagree p hv
    | none => exact .error (.oversizedGlob pattern)
  | descendant names => exact alike_descend hagree hv names
  | array selector => exact alike_select hagree selector hv
  | filter expression => exact alike_filter hagree expression hv
  | unrecognized fragment => exact .ok (holdsAll_nil s root)

theorem alike_applyAll (segment : Segment) {vs : List Value} (hvs : s.HoldsAll root vs) :
    Alike (s.HoldsAll root) (t.applyAll segment vs) (s.applyAll segment vs) := by
  induction vs with
  | nil => exact .ok (holdsAll_nil s root)
  | cons v vs ih =>
    have hrest := ih fun w hw => hvs w (List.mem_cons_of_mem v hw)
    refine (alike_apply hagree segment (hvs v List.mem_cons_self)).bind fun found hfound =>
      hrest.bind fun more hmore => .ok fun w hw => ?_
    rcases List.mem_append.mp hw with hw | hw
    · exact hfound w hw
    · exact hmore w hw

/-- Each segment starts from the same values, and these are held. -/
theorem alike_runSegments (segments : List Segment) {vs : List Value}
    (hvs : s.HoldsAll root vs) :
    Alike (s.HoldsAll root) (t.runSegments segments vs)
      (s.runSegments segments vs) := by
  induction segments generalizing vs with
  | nil => exact .ok hvs
  | cons segment segments ih =>
    have hstep : Alike (s.HoldsAll root)
        (t.applyAll segment vs >>= t.runSegments segments)
        (s.applyAll segment vs >>= s.runSegments segments) :=
      (alike_applyAll hagree segment hvs).bind fun found hfound => ih hfound
    cases segment with
    -- a fragment that no rule fits ends the query before it is applied
    | unrecognized fragment => exact .ok (holdsAll_nil s root)
    | _ =>
      simp only [runSegments]
      split
      · exact .ok (holdsAll_nil s root)
      · exact hstep

/-- A path finds the same from a root in two stores that agree below it, and what it finds is
held. -/
theorem alike_find (path : String) :
    Alike (s.HoldsAll root) (t.find root path) (s.find root path) := by
  have hroot : s.HoldsAll root [root] := fun v hv => .inl (List.mem_singleton.mp hv)
  rw [find, find]
  split
  · exact .ok hroot
  · split
    · exact .ok (holdsAll_nil s root)
    · exact alike_runSegments hagree (parse path) hroot

end Select

theorem holdsAll_of_find {path : String} {vs : List Value} (hfind : s.find root path = .ok vs) :
    s.HoldsAll root vs := by
  have halike := alike_find (AgreesBelow.refl s root) path
  rw [hfind] at halike
  exact halike.of_ok

/-! ## Texts -/

section Text

variable (hagree : s.AgreesBelow root t)

include hagree

/-- A value unfolds to the same tree, whatever is open above it. -/
theorem toTreeFrom_eq (hv : s.Holds root v) (active : List Handle) :
    t.toTreeFrom active v = s.toTreeFrom active v := by
  -- along the unfolding in the first store; in the other one the same containers are open
  induction active, v using toTreeFrom.induct s with
  | case7 active k hopen items hcell ih =>
    have hopen' : k.index < t.size ∧ active.contains k = false := by
      rwa [hagree.lt_size_iff hv]
    have hitems : ∀ w ∈ items, t.toTreeFrom (k :: active) w = s.toTreeFrom (k :: active) w :=
      fun w hw => ih w (hv.child (by rwa [hcell]))
    rw [toTreeFrom, toTreeFrom, dif_pos hopen, dif_pos hopen', hagree.cell_eq hv, hcell]
    simp only [List.map_congr_left hitems]
  | case8 active k hopen members hcell ih =>
    have hopen' : k.index < t.size ∧ active.contains k = false := by
      rwa [hagree.lt_size_iff hv]
    have hmembers : ∀ m ∈ members, (m.1, t.toTreeFrom (k :: active) m.2) =
        (m.1, s.toTreeFrom (k :: active) m.2) := fun m hm => by
      rw [ih m (hv.child (by rw [hcell]; exact List.mem_map_of_mem hm))]
    rw [toTreeFrom, toTreeFrom, dif_pos hopen, dif_pos hopen', hagree.cell_eq hv, hcell]
    simp only [List.map_congr_left hmembers]
  | case9 active k hopen =>
    have hopen' : ¬(k.index < t.size ∧ active.contains k = false) := by
      rwa [hagree.lt_size_iff hv]
    rw [toTreeFrom, toTreeFrom, dif_neg hopen, dif_neg hopen']
  | _ => simp only [toTreeFrom]

theorem display_eq (hv : s.Holds root v) : t.display v = s.display v := by
  have htext : t.text v = s.text v := by
    rw [text, text, print_eq_text_toTree, print_eq_text_toTree, toTree, toTree,
      toTreeFrom_eq hagree hv]
  cases v with
  | string text => rfl
  | _ => exact htext

end Text

end DocQuery.Store
