import Mathlib
import DocQuery.Proofs.Decimal.Finite
import DocQuery.Proofs.Store.Representation
import DocQuery.Store.Load

/-!
# Loaded Trees

A tree is loaded into new containers, so everything that was in the store before is kept.  What is
loaded stands for the tree without the absent items and members, and with its numbers as values
keep them.  Unfolding a value and loading its tree again gives a copy of it, and loading a tree and
unfolding the value gives the tree back, but for what loading drops.

## Main definitions

- `Number.loaded`, `Tree.loaded`: a tree without what loading drops
- `Number.Fits`, `Tree.WellFormed`: trees that stand for JSON texts
- `Store.Stored`, `Store.Closed`: no container is missing

## Main statements

- `keeps_load`: loading keeps what is there
- `closed_load`: no container of a loaded value is missing
- `unfolds_load`: what a loaded value stands for
- `load_round_trip`: both ways round
-/

namespace DocQuery

open DocQuery.Decimal
open DocQuery.Json (Members Number Tree)

/-! ## Trees as they are loaded -/

namespace Json

/-- A whole number of 64 bits, with or without a sign, or a finite floating-point number. -/
def Number.Fits : Number → Prop
  | integer n => -2 ^ 63 ≤ n ∧ n < 2 ^ 64
  | float x => x.isFinite = true

/-- A whole number that does not fit 64 bits with a sign becomes the nearest floating-point
number. -/
def Number.loaded : Number → Number
  | integer n => if -2 ^ 63 ≤ n ∧ n < 2 ^ 63 then integer n else float (Float64.ofInt n)
  | float x => float x

namespace Tree

/-- Whether the tree is `null`. -/
def isNull : Tree → Bool
  | null => true
  | _ => false

/-- The numbers fit, and no object has two members of one name. -/
inductive WellFormed : Tree → Prop where
  | null : WellFormed null
  | bool (b : Bool) : WellFormed (bool b)
  | number {n : Number} (hn : n.Fits) : WellFormed (number n)
  | string (text : String) : WellFormed (string text)
  | array {items : List Tree} (hitems : ∀ t ∈ items, WellFormed t) : WellFormed (array items)
  | object {members : Members Tree} (hnames : members.names.Nodup)
      (hvalues : ∀ t ∈ members.values, WellFormed t) : WellFormed (object members)

mutual

/-- The tree without absent items and members, and with its numbers as they are loaded. -/
def loaded : Tree → Tree
  | null => null
  | bool b => bool b
  | number n => number n.loaded
  | string text => string text
  | array items => array (loadedItems items)
  | object members => object (loadedMembers members)

/-- The items of an array, without the absent ones. -/
def loadedItems : List Tree → List Tree
  | [] => []
  | t :: ts => if t.isNull then loadedItems ts else t.loaded :: loadedItems ts

/-- The members of an object, without the absent ones. -/
def loadedMembers : List (String × Tree) → List (String × Tree)
  | [] => []
  | (name, t) :: ms =>
    if t.isNull then loadedMembers ms else (name, t.loaded) :: loadedMembers ms

end

theorem loadedItems_eq (items : List Tree) :
    loadedItems items = (items.filter (!·.isNull)).map loaded := by
  induction items with
  | nil => rfl
  | cons t ts ih =>
    rw [loadedItems]
    cases ht : t.isNull with
    | true => simp [ht, ih]
    | false => simp [ht, ih]

theorem loadedMembers_eq (members : Members Tree) :
    loadedMembers members =
      (members.filter (!·.2.isNull)).map fun m => (m.1, m.2.loaded) := by
  induction members with
  | nil => rfl
  | cons m ms ih =>
    rw [loadedMembers]
    cases hm : m.2.isNull with
    | true => simp [hm, ih]
    | false => simp [hm, ih]

end Tree

end Json

namespace Store

variable {s t : Store} {v : Value} {u : Tree}

/-! ## What is kept -/

theorem Keeps.refl (s : Store) : s.Keeps s := fun _ hsize => ⟨hsize, rfl⟩

theorem Keeps.trans {r : Store} (hst : s.Keeps t) (htr : t.Keeps r) : s.Keeps r := by
  intro h hsize
  obtain ⟨hsize', hcell⟩ := hst h hsize
  obtain ⟨hsize'', hcell'⟩ := htr h hsize'
  exact ⟨hsize'', hcell'.trans hcell⟩

theorem keeps_alloc (s : Store) (c : Cell) : s.Keeps (s.alloc c).2 := by
  intro h hsize
  refine ⟨?_, cell_alloc_of_lt hsize c⟩
  rw [size_alloc]
  exact Nat.lt_succ_of_lt hsize

mutual

theorem keeps_load (s : Store) : ∀ u, s.Keeps (s.load u).2
  | .null | .bool _ | .number _ | .string _ => .refl s
  | .array items => (keeps_loadItems s items).trans (keeps_alloc _ _)
  | .object members => (keeps_loadMembers s members).trans (keeps_alloc _ _)

theorem keeps_loadItems (s : Store) : ∀ items, s.Keeps (s.loadItems items).2
  | [] => .refl s
  | item :: items => (keeps_load s item).trans (keeps_loadItems _ items)

theorem keeps_loadMembers (s : Store) : ∀ members, s.Keeps (s.loadMembers members).2
  | [] => .refl s
  | (_, member) :: members => (keeps_load s member).trans (keeps_loadMembers _ members)

end

/-! ## Closed stores -/

/-- If the value is a container, then it is one of the store. -/
def Stored (s : Store) (v : Value) : Prop := ∀ h, v = .container h → h.index < s.size

/-- All containers that lie in containers of the store are stored. -/
def Closed (s : Store) : Prop := ∀ g, ∀ v ∈ (s.cell g).children, s.Stored v

theorem Stored.keep (hv : s.Stored v) (hkeeps : s.Keeps t) : t.Stored v :=
  fun h hh => (hkeeps h (hv h hh)).1

theorem closed_empty : Closed {} := fun _ _ hv => absurd hv List.not_mem_nil

theorem stored_alloc (s : Store) (c : Cell) : (s.alloc c).2.Stored (s.alloc c).1 := by
  rintro _ ⟨⟩
  rw [size_alloc]
  exact Nat.lt_succ_self s.size

theorem closed_alloc {c : Cell} (hs : s.Closed) (hc : ∀ v ∈ c.children, s.Stored v) :
    (s.alloc c).2.Closed := by
  intro g v hv
  have hkeeps := keeps_alloc s c
  have hsize := lt_size_of_mem_children hv
  rw [size_alloc] at hsize
  rcases Nat.lt_or_eq_of_le (Nat.le_of_lt_succ hsize) with hlt | heq
  · rw [cell_alloc_of_lt hlt] at hv
    exact (hs g v hv).keep hkeeps
  · obtain rfl : g = ⟨s.size⟩ := congrArg Handle.mk heq
    rw [cell_alloc_self] at hv
    exact (hc v hv).keep hkeeps

mutual

/-- Loading keeps a store closed, and the value that is loaded is stored. -/
theorem closed_load {s : Store} (hs : s.Closed) :
    ∀ u, (s.load u).2.Closed ∧ (s.load u).2.Stored (s.load u).1
  | .null | .bool _ | .string _ | .number (.float _) => ⟨hs, nofun⟩
  | .number (.integer n) => by
    refine ⟨hs, fun h hh => ?_⟩
    rw [load, Value.ofNumber] at hh
    split at hh <;> cases hh
  | .array items => by
    obtain ⟨hclosed, hstored⟩ := closed_loadItems hs items
    exact ⟨closed_alloc hclosed fun v hv => hstored v (List.mem_of_mem_filter hv),
      stored_alloc _ _⟩
  | .object members => by
    obtain ⟨hclosed, hstored⟩ := closed_loadMembers hs members
    refine ⟨closed_alloc hclosed fun v hv => hstored v ?_, stored_alloc _ _⟩
    obtain ⟨m, hm, rfl⟩ := List.mem_map.mp (Members.mem_values_ofPairs hv)
    exact List.mem_map_of_mem (List.mem_of_mem_filter hm)

theorem closed_loadItems {s : Store} (hs : s.Closed) :
    ∀ items, (s.loadItems items).2.Closed ∧
      ∀ v ∈ (s.loadItems items).1, (s.loadItems items).2.Stored v
  | [] => ⟨hs, fun _ hv => absurd hv List.not_mem_nil⟩
  | item :: items => by
    obtain ⟨hclosed, hstored⟩ := closed_load hs item
    obtain ⟨hclosed', hstored'⟩ := closed_loadItems hclosed items
    exact ⟨hclosed', List.forall_mem_cons.mpr ⟨hstored.keep (keeps_loadItems _ items), hstored'⟩⟩

theorem closed_loadMembers {s : Store} (hs : s.Closed) :
    ∀ members, (s.loadMembers members).2.Closed ∧
      ∀ v ∈ (s.loadMembers members).1.map Prod.snd, (s.loadMembers members).2.Stored v
  | [] => ⟨hs, fun _ hv => absurd hv List.not_mem_nil⟩
  | (_, member) :: members => by
    obtain ⟨hclosed, hstored⟩ := closed_load hs member
    obtain ⟨hclosed', hstored'⟩ := closed_loadMembers hclosed members
    exact ⟨hclosed', List.forall_mem_cons.mpr
      ⟨hstored.keep (keeps_loadMembers _ members), hstored'⟩⟩

end

/-- In a closed store nothing below a stored value is lost when containers are only added. -/
theorem Closed.agreesBelow (hs : s.Closed) (hv : s.Stored v) (hkeeps : s.Keeps t) :
    s.AgreesBelow v t := by
  intro h hh
  have hsize : h.index < s.size := by
    rcases hh with heq | ⟨g, -, hmem⟩
    · exact hv h heq.symm
    · exact hs g _ hmem h rfl
  obtain ⟨hsize', hcell⟩ := hkeeps h hsize
  rw [size] at hsize hsize'
  simpa [cell, hsize, hsize'] using hcell

/-! ## What is loaded -/

/-- A number becomes the value that its loaded form stands for. -/
theorem unfolds_ofNumber {n : Number} (hn : n.Fits) :
    s.Unfolds (Value.ofNumber n) (.number n.loaded) := by
  cases n with
  | float x => exact .float hn
  | integer n =>
    obtain ⟨hlow, hhigh⟩ := hn
    have hmin : Int64.minValue.toInt = -2 ^ 63 := by decide
    have hmax : Int64.maxValue.toInt = 2 ^ 63 - 1 := by decide
    rw [Value.ofNumber, Number.loaded]
    cases hread : toInt64? n with
    | some m =>
      have hm := toInt_of_toInt64? hread
      have hfits : -2 ^ 63 ≤ n ∧ n < 2 ^ 63 := by
        have := Int64.minValue_le_toInt m
        have := Int64.toInt_le m
        omega
      rw [if_pos hfits, ← hm]
      exact .integer m
    | none =>
      have hwide : ¬(-2 ^ 63 ≤ n ∧ n < 2 ^ 63) := by
        intro hfits
        rw [toInt64?, if_pos (by omega)] at hread
        cases hread
      rw [if_neg hwide]
      exact .float (Float64.isFinite_ofInt (by omega))

theorem isNull_load (s : Store) (u : Tree) : (s.load u).1.isNull = u.isNull := by
  cases u with
  | number n =>
    rw [load]
    cases n with
    | float x => rfl
    | integer n =>
      rw [Value.ofNumber]
      cases toInt64? n <;> rfl
  | _ => rfl

/-- The values of items, side by side with the items. -/
theorem unfolds_loadItems {items : List Tree}
    (hitems : ∀ u ∈ items, ∀ s : Store, (s.load u).2.Unfolds (s.load u).1 u.loaded) (s : Store) :
    List.Forall₂ (fun v u => v.isNull = u.isNull ∧ (s.loadItems items).2.Unfolds v u.loaded)
      (s.loadItems items).1 items := by
  induction items generalizing s with
  | nil => exact .nil
  | cons u us ih =>
    refine .cons ⟨isNull_load s u, ?_⟩ (ih (fun w hw => hitems w (List.mem_cons_of_mem u hw)) _)
    exact (hitems u List.mem_cons_self s).keep (keeps_loadItems _ us)

/-- The values of members, side by side with the members. -/
theorem unfolds_loadMembers {members : Members Tree}
    (hmembers : ∀ u ∈ members.values, ∀ s : Store, (s.load u).2.Unfolds (s.load u).1 u.loaded)
    (s : Store) :
    List.Forall₂ (fun m e => m.1 = e.1 ∧ m.2.isNull = e.2.isNull ∧
      (s.loadMembers members).2.Unfolds m.2 e.2.loaded) (s.loadMembers members).1 members := by
  induction members generalizing s with
  | nil => exact .nil
  | cons m ms ih =>
    refine .cons ⟨rfl, isNull_load s m.2, ?_⟩
      (ih (fun w hw => hmembers w (List.mem_cons_of_mem m.2 hw)) _)
    exact (hmembers m.2 List.mem_cons_self s).keep (keeps_loadMembers _ ms)

/-- A new container with the values of an array stands for the array that they were loaded from. -/
theorem unfolds_newArray {values : List Value} {items : List Tree}
    (hvalues : List.Forall₂ (fun v u => v.isNull = u.isNull ∧ s.Unfolds v u.loaded) values items) :
    (s.newArray values).2.Unfolds (s.newArray values).1 (.array (Tree.loadedItems items)) := by
  have hkeeps := keeps_alloc s (.array (values.filter (!·.isNull)))
  refine .array (s.size_alloc _ ▸ Nat.lt_succ_self s.size) (s.cell_alloc_self _) ?_
  rw [Tree.loadedItems_eq, List.forall₂_map_right_iff]
  refine (List.rel_filter ?_ hvalues).imp fun v u hv => hv.2.keep hkeeps
  rintro v u ⟨hnull, -⟩
  simp only [hnull]

/-- A new container with the values of members stands for the object that they were loaded from. -/
theorem unfolds_newObject {values : Members Value} {members : Members Tree}
    (hnames : members.names.Nodup)
    (hvalues : List.Forall₂ (fun m e => m.1 = e.1 ∧ m.2.isNull = e.2.isNull ∧
      s.Unfolds m.2 e.2.loaded) values members) :
    (s.newObject values).2.Unfolds (s.newObject values).1
      (.object (Tree.loadedMembers members)) := by
  have hfilter : List.Forall₂ (fun m e => m.1 = e.1 ∧ m.2.isNull = e.2.isNull ∧
      s.Unfolds m.2 e.2.loaded) (values.filter (!·.2.isNull)) (members.filter (!·.2.isNull)) := by
    refine List.rel_filter ?_ hvalues
    rintro m e ⟨-, hnull, -⟩
    simp only [hnull]
  have hsame : Members.names (values.filter (!·.2.isNull)) =
      Members.names (members.filter (!·.2.isNull)) := by
    rw [← List.forall₂_eq_eq_eq, Members.names, Members.names, List.forall₂_map_left_iff,
      List.forall₂_map_right_iff]
    exact hfilter.imp fun m e hm => hm.1
  have hdistinct : (Members.names (members.filter (!·.2.isNull))).Nodup :=
    hnames.sublist (List.filter_sublist.map Prod.fst)
  have hpairs := Members.ofPairs_of_nodup (hsame ▸ hdistinct)
  have hkeeps := keeps_alloc s (.object (Members.ofPairs (values.filter (!·.2.isNull))))
  refine .object (s.size_alloc _ ▸ Nat.lt_succ_self s.size) (s.cell_alloc_self _) ?_ ?_
  · rw [Tree.loadedMembers_eq, Members.names_map, hpairs, hsame]
  · rw [Tree.loadedMembers_eq, Members.values_map, hpairs, Members.values, Members.values,
      List.map_map, List.forall₂_map_left_iff, List.forall₂_map_right_iff]
    exact hfilter.imp fun m e hm => hm.2.2.keep hkeeps

/-- What is loaded stands for the tree that it was loaded from, but for what loading drops. -/
theorem unfolds_load (hu : u.WellFormed) (s : Store) :
    (s.load u).2.Unfolds (s.load u).1 u.loaded := by
  induction hu generalizing s with
  | null => exact .null
  | bool b => exact .bool b
  | number hn => exact unfolds_ofNumber hn
  | string text => exact .string text
  | array _ ih => exact unfolds_newArray (unfolds_loadItems ih s)
  | object hnames _ ih => exact unfolds_newObject hnames (unfolds_loadMembers ih s)

/-! ## Trees of expressible values -/

theorem Unfolds.isNull_eq (hunfolds : s.Unfolds v u) : u.isNull = v.isNull := by
  cases hunfolds <;> rfl

/-- The trees of what an expressible container holds are not absent, if they are well-formed and
complete as soon as the values are expressible. -/
theorem Expressible.trees {h : Handle} (hv : s.Expressible (.container h)) {vs : List Value}
    {us : List Tree} (hmem : ∀ v ∈ vs, v ∈ (s.cell h).children)
    (htrees : List.Forall₂ (fun v u => ∃ _ : s.Unfolds v u,
      s.Expressible v → u.WellFormed ∧ u.loaded = u) vs us) :
    ∀ u ∈ us, u.isNull = false ∧ u.WellFormed ∧ u.loaded = u := by
  intro u hu
  obtain ⟨v, hv', hunfolds, htree⟩ := exists_of_mem_left htrees.flip hu
  refine ⟨?_, htree (hv.child (hmem v hv'))⟩
  rw [hunfolds.isNull_eq, Bool.eq_false_iff, ne_eq, Value.isNull_iff]
  rintro rfl
  exact (hv.tidy h (.inl rfl)).present (hmem _ hv')

/-- The tree of an expressible value is well-formed, and loading drops nothing of it. -/
theorem Unfolds.wellFormed (hunfolds : s.Unfolds v u) (hv : s.Expressible v) :
    u.WellFormed ∧ u.loaded = u := by
  induction hunfolds using Unfolds.induct with
  | null => exact ⟨.null, rfl⟩
  | bool b => exact ⟨.bool b, rfl⟩
  | integer n =>
    have hlow : -2 ^ 63 ≤ n.toInt := Int64.minValue_le_toInt n
    have hhigh : n.toInt < 2 ^ 63 := Int64.toInt_lt n
    refine ⟨.number ⟨hlow, by omega⟩, ?_⟩
    rw [Tree.loaded, Number.loaded, if_pos ⟨hlow, hhigh⟩]
  | float x hfinite => exact ⟨.number hfinite, rfl⟩
  | string text => exact ⟨.string text, rfl⟩
  | array h items ts hsize hcell _ ih =>
    have htrees := hv.trees (fun v hmem => hcell ▸ hmem) ih
    refine ⟨.array fun u hu => (htrees u hu).2.1, ?_⟩
    have hfilter : ts.filter (!·.isNull) = ts :=
      List.filter_eq_self.mpr fun u hu => by rw [(htrees u hu).1]; rfl
    rw [Tree.loaded, Tree.loadedItems_eq, hfilter,
      List.map_congr_left fun u hu => (htrees u hu).2.2, List.map_id']
  | object h members ms hsize hcell hnames _ ih =>
    have htrees := hv.trees (fun v (hmem : v ∈ members.values) => hcell ▸ hmem) ih
    have hdistinct : members.names.Nodup := (hv.tidy h (.inl rfl)).distinct members hcell
    refine ⟨.object (hnames ▸ hdistinct) fun u hu => (htrees u hu).2.1, ?_⟩
    have hfilter : ms.filter (!·.2.isNull) = ms :=
      List.filter_eq_self.mpr fun m hm => by rw [(htrees m.2 (List.mem_map_of_mem hm)).1]; rfl
    rw [Tree.loaded, Tree.loadedMembers_eq, hfilter,
      List.map_congr_left fun m hm => congrArg _ (htrees m.2 (List.mem_map_of_mem hm)).2.2,
      List.map_id']

/-! ## Both ways round -/

/-- The tree of an expressible value is loaded as a copy of the value. -/
theorem isCopy_load (hv : s.Expressible v) (t : Store) :
    IsCopy s (t.load (s.toTree v)).2 v (t.load (s.toTree v)).1 := by
  have hunfolds := unfolds_toTree hv
  obtain ⟨hwellFormed, hloaded⟩ := hunfolds.wellFormed hv
  have hload := unfolds_load hwellFormed t
  rw [hloaded] at hload
  exact hunfolds.isCopy hload

/-- Unfolding an expressible value and loading its tree, into any store, gives a value of the same
structure.  Loading a well-formed tree and unfolding the value gives the tree as it is loaded. -/
theorem load_round_trip (s t : Store) :
    (∀ v, s.Expressible v → IsCopy s (t.load (s.toTree v)).2 v (t.load (s.toTree v)).1) ∧
      ∀ u : Tree, u.WellFormed → (t.load u).2.toTree (t.load u).1 = u.loaded :=
  ⟨fun _ hv => isCopy_load hv t, fun _ hu => (unfolds_load hu t).toTree_eq⟩

/-- An array that is shared and has two numbers of different kinds, and a tree with absent parts
and a number that is too large. -/
theorem load_round_trip_shared :
    let s : Store := ⟨#[.object [("b", .container ⟨1⟩), ("a", .container ⟨1⟩)],
      .array [.integer 3, .float (Float64.ofInt 3)]]⟩
    let u : Tree := .object [("x", .array [.null, .number (.integer (2 ^ 63))]), ("y", .null)]
    (s.Expressible (.container ⟨0⟩) ∧
      IsCopy s (load {} (s.toTree (.container ⟨0⟩))).2 (.container ⟨0⟩)
        (load {} (s.toTree (.container ⟨0⟩))).1) ∧
      u.WellFormed ∧ (load {} u).2.toTree (load {} u).1 =
        .object [("x", .array [.number (.float (Float64.ofInt (2 ^ 63)))])] := by
  intro s u
  have hv : s.Expressible (.container ⟨0⟩) := by
    refine .of_index_lt ?_ ?_ ?_ (by decide)
    · rintro ⟨i⟩ ⟨j⟩ hmem
      have hi : i < 2 := lt_size_of_mem_children hmem
      interval_cases i <;> simp_all [s, cell, Cell.children, size]
    · rintro ⟨i⟩ (hi : i < 2)
      interval_cases i
      · exact Cell.tidy_object (by simp [Members.values]) (by decide)
      · exact Cell.tidy_array (by simp)
    · rintro ⟨i⟩ x hmem
      have hi : i < 2 := lt_size_of_mem_children hmem
      interval_cases i <;> simp_all [s, cell, Cell.children]
      exact Float64.isFinite_ofInt (by decide)
  have hu : u.WellFormed := by
    refine .object (by decide) fun w hw => ?_
    rcases List.mem_pair.mp hw with rfl | rfl
    · refine .array fun w hw => ?_
      rcases List.mem_pair.mp hw with rfl | rfl
      · exact .null
      · exact .number ⟨by decide, by decide⟩
    · exact .null
  exact ⟨⟨hv, (load_round_trip s {}).1 _ hv⟩, hu, (load_round_trip s {}).2 u hu⟩

end Store

end DocQuery
