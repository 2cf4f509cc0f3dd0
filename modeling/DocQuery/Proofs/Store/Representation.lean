import Mathlib
import DocQuery.Proofs.Json.Members
import DocQuery.Proofs.Query.Locality
import DocQuery.Proofs.Session.Tidy

/-!
# Trees of Values

A tree stands for a value when every part of the value has its counterpart in the tree.  A
container that is shared has a copy in the tree at each of its places, and one that lies below
itself would need an infinite tree.  So a value has a tree when nothing below it lies below itself
and all of its numbers are finite, and then it has one only: the tree that it is unfolded to.

The containers that are open during the unfolding are those on the way down from the root.  None of
them is met again, because it would then lie below itself.

## Main definitions

- `Unfolds`: a tree stands for a value
- `Expressible`: nothing in a value is lost in a tree
- `IsCopy`: two values, of two stores, have the same structure

## Main statements

- `unfolds_toTree`, `Unfolds.toTree_eq`: the tree that a value is unfolded to stands for it, and no
  other one does
- `Unfolds.isCopy`: values with the same tree have the same structure
-/

namespace DocQuery.Store

open DocQuery.Json (Members Tree)
open Relation (TransGen)

variable {s t : Store} {g h : Handle} {v w : Value} {u : Tree}

/-! ## Values and trees -/

/-- The tree stands for the value. -/
inductive Unfolds (s : Store) : Value → Tree → Prop where
  | null : Unfolds s .null .null
  | bool (b : Bool) : Unfolds s (.bool b) (.bool b)
  | integer (n : Int64) : Unfolds s (.integer n) (.number (.integer n.toInt))
  | float {x : Float} (hfinite : x.isFinite = true) : Unfolds s (.float x) (.number (.float x))
  | string (text : String) : Unfolds s (.string text) (.string text)
  /-- The items stand for the elements, one by one -/
  | array {h : Handle} {items : List Value} {ts : List Tree} (hsize : h.index < s.size)
      (hcell : s.cell h = .array items) (hitems : List.Forall₂ (Unfolds s) items ts) :
      Unfolds s (.container h) (.array ts)
  /-- The members have the same names in the same order, and stand for each other -/
  | object {h : Handle} {members : Members Value} {ms : Members Tree} (hsize : h.index < s.size)
      (hcell : s.cell h = .object members) (hnames : members.names = ms.names)
      (hvalues : List.Forall₂ (Unfolds s) members.values ms.values) :
      Unfolds s (.container h) (.object ms)

/-- Induction on the way in which a tree stands for a value.  What is shown for the children holds
of each pair of them that stands at the same place. -/
theorem Unfolds.induct {motive : (v : Value) → (u : Tree) → s.Unfolds v u → Prop}
    (null : motive .null .null .null)
    (bool : ∀ b, motive (.bool b) (.bool b) (.bool b))
    (integer : ∀ n : Int64, motive (.integer n) (.number (.integer n.toInt)) (.integer n))
    (float : ∀ x (hfinite : x.isFinite = true),
      motive (.float x) (.number (.float x)) (.float hfinite))
    (string : ∀ text, motive (.string text) (.string text) (.string text))
    (array : ∀ h items ts (hsize : h.index < s.size) (hcell : s.cell h = .array items)
      (hitems : List.Forall₂ s.Unfolds items ts),
      List.Forall₂ (fun v u => ∃ hchild, motive v u hchild) items ts →
        motive (.container h) (.array ts) (.array hsize hcell hitems))
    (object : ∀ h members ms (hsize : h.index < s.size) (hcell : s.cell h = .object members)
      (hnames : members.names = Members.names ms)
      (hvalues : List.Forall₂ s.Unfolds members.values (Members.values ms)),
      List.Forall₂ (fun v u => ∃ hchild, motive v u hchild) members.values (Members.values ms) →
        motive (.container h) (.object ms) (.object hsize hcell hnames hvalues))
    {v : Value} {u : Tree} (hunfolds : s.Unfolds v u) : motive v u hunfolds := by
  refine @Unfolds.rec s motive
    (fun vs us _ => List.Forall₂ (fun v u => ∃ hchild, motive v u hchild) vs us) null bool integer
    (fun {x} hfinite => float x hfinite) string ?array ?object .nil
    (fun hchild _ ih ihs => .cons ⟨hchild, ih⟩ ihs) v u hunfolds
  case array => exact fun hsize hcell hitems ih => array _ _ _ hsize hcell hitems ih
  case object =>
    exact fun hsize hcell hnames hvalues ih => object _ _ _ hsize hcell hnames hvalues ih

theorem exists_of_mem_left {α β : Type} {R : α → β → Prop} {as : List α} {bs : List β} {a : α}
    (hrel : List.Forall₂ R as bs) (ha : a ∈ as) : ∃ b ∈ bs, R a b := by
  induction hrel with
  | nil => cases ha
  | @cons a' b as bs hab _ ih =>
    rcases List.mem_cons.mp ha with rfl | ha
    · exact ⟨b, List.mem_cons_self, hab⟩
    · obtain ⟨b', hb', hr⟩ := ih ha
      exact ⟨b', List.mem_cons_of_mem b hb', hr⟩

/-- The ways down from a value that has a tree are finite. -/
theorem Unfolds.acc (hunfolds : s.Unfolds v u) (hv : v = .container h) :
    Acc (Function.swap s.Child) h := by
  induction hunfolds using Unfolds.induct generalizing h with
  | array g items ts hsize hcell _ ih =>
    cases hv
    refine .intro _ fun k hchild => ?_
    have hmem : .container k ∈ (Cell.array items).children := hcell ▸ hchild.2
    obtain ⟨_, -, _, hacc⟩ := exists_of_mem_left ih hmem
    exact hacc rfl
  | object g members ms hsize hcell hnames _ ih =>
    cases hv
    refine .intro _ fun k hchild => ?_
    have hmem : .container k ∈ (Cell.object members).children := hcell ▸ hchild.2
    obtain ⟨_, -, _, hacc⟩ := exists_of_mem_left ih hmem
    exact hacc rfl
  | _ => cases hv

/-- A container that has a tree does not lie below itself. -/
theorem Unfolds.not_below_itself (hunfolds : s.Unfolds (.container h) u) :
    ¬TransGen s.Child h h := by
  have hacc : Acc (TransGen (Function.swap s.Child)) h := acc_transGen_iff.mpr (hunfolds.acc rfl)
  clear hunfolds
  intro hcycle
  rw [← Relation.transGen_swap] at hcycle
  induction hacc with
  | intro k _ ih => exact ih k hcycle hcycle

/-! ## Unfolding -/

/-- The containers that are open lie above the value. -/
def Below (s : Store) (active : List Handle) (v : Value) : Prop :=
  ∀ g ∈ active, ∀ h, v = .container h → TransGen s.Child g h

theorem below_nil (s : Store) (v : Value) : s.Below [] v := nofun

/-- Going down to a child opens the container that it is in. -/
theorem Below.child {active : List Handle} (hbelow : s.Below active (.container h))
    (hsize : ∀ k, w = .container k → k.index < s.size) (hmem : w ∈ (s.cell h).children) :
    s.Below (h :: active) w := by
  rintro g hg k rfl
  have hchild : s.Child h k := ⟨hsize k rfl, hmem⟩
  rcases List.mem_cons.mp hg with rfl | hg
  · exact .single hchild
  · exact (hbelow g hg h rfl).tail hchild

/-- A container of the store that does not lie below itself is not met again. -/
theorem Below.open {active : List Handle} (hbelow : s.Below active (.container h))
    (hsize : h.index < s.size) (hacyclic : ¬TransGen s.Child h h) :
    h.index < s.size ∧ active.contains h = false := by
  refine ⟨hsize, ?_⟩
  rw [List.contains_eq_mem, decide_eq_false_iff_not]
  exact fun hmem => hacyclic (hbelow h hmem h rfl)

theorem Unfolds.lt_size (hunfolds : s.Unfolds (.container h) u) : h.index < s.size := by
  cases hunfolds with
  | array hsize _ _ => exact hsize
  | object hsize _ _ _ => exact hsize

/-- What a container holds is unfolded to its trees, with that container open as well. -/
theorem map_toTreeFrom {active : List Handle} {vs : List Value} {us : List Tree}
    (hbelow : s.Below active (.container h)) (hmem : ∀ v ∈ vs, v ∈ (s.cell h).children)
    (hunfolds : List.Forall₂ (fun v u => ∃ _ : s.Unfolds v u,
      ∀ {active}, s.Below active v → s.toTreeFrom active v = u) vs us) :
    vs.map (s.toTreeFrom (h :: active)) = us := by
  rw [← List.forall₂_eq_eq_eq, List.forall₂_map_left_iff]
  refine ((List.forall₂_and_left _ _).mpr ⟨hmem, hunfolds⟩).imp ?_
  rintro v u ⟨hv, hchild, heq⟩
  refine heq (hbelow.child ?_ hv)
  rintro k rfl
  exact hchild.lt_size

/-- The tree that stands for a value is the one that it is unfolded to. -/
theorem Unfolds.toTreeFrom_eq (hunfolds : s.Unfolds v u) {active : List Handle}
    (hbelow : s.Below active v) : s.toTreeFrom active v = u := by
  -- on the tree, with the containers that are open; each child is below one container more
  induction hunfolds using Unfolds.induct generalizing active with
  | null => rw [toTreeFrom]
  | bool b => rw [toTreeFrom]
  | integer n => rw [toTreeFrom]
  | float x hfinite => rw [toTreeFrom, if_pos hfinite]
  | string text => rw [toTreeFrom]
  | array h items ts hsize hcell hitems ih =>
    have hopen := hbelow.open hsize (Unfolds.array hsize hcell hitems).not_below_itself
    have hmap := map_toTreeFrom hbelow (fun v hv => hcell ▸ hv) ih
    rw [toTreeFrom, dif_pos hopen, hcell]
    exact congrArg Tree.array hmap
  | object h members ms hsize hcell hnames hvalues ih =>
    have hopen := hbelow.open hsize (Unfolds.object hsize hcell hnames hvalues).not_below_itself
    have hmap := map_toTreeFrom hbelow (fun (v) (hv : v ∈ members.values) => hcell ▸ hv) ih
    rw [toTreeFrom, dif_pos hopen, hcell]
    refine congrArg Tree.object (Members.ext_names_values ?_ ?_)
    · rw [Members.names_map, hnames]
    · rw [Members.values_map, hmap]

/-- A value has no other tree than the one that it is unfolded to. -/
theorem Unfolds.toTree_eq (hunfolds : s.Unfolds v u) : s.toTree v = u :=
  hunfolds.toTreeFrom_eq (below_nil s v)

/-! ## Values that have a tree -/

/-- No container below the value lies below itself, none of them holds something absent or has two
members of one name, and all numbers are finite. -/
structure Expressible (s : Store) (v : Value) : Prop where
  acyclic : ∀ h, v = .container h → s.AcyclicFrom h
  /-- Each container has a cell -/
  stored : ∀ h, s.Holds v (.container h) → h.index < s.size
  tidy : ∀ h, s.Holds v (.container h) → (s.cell h).Tidy
  finite : ∀ x, s.Holds v (.float x) → x.isFinite = true

theorem Holds.trans {x : Value} (hw : s.Holds v w) (hx : s.Holds w x) : s.Holds v x := by
  rcases hx with rfl | ⟨g, ⟨r, rfl, hreach⟩, hmem⟩
  · exact hw
  · exact (hw.of_reaches hreach).child hmem

namespace Expressible

theorem lt_size (hv : s.Expressible (.container h)) : h.index < s.size := hv.stored h (.inl rfl)

/-- What a container holds is expressible with it. -/
theorem child (hv : s.Expressible (.container h)) (hmem : w ∈ (s.cell h).children) :
    s.Expressible w := by
  have hw : s.Holds (.container h) w := Holds.child (.inl rfl) hmem
  constructor
  case acyclic =>
    rintro k rfl
    have hchild : s.Child h k := ⟨hv.stored k hw, hmem⟩
    exact (hv.acyclic h rfl).of_reaches (.single hchild)
  case stored => exact fun k hk => hv.stored k (hw.trans hk)
  case tidy => exact fun k hk => hv.tidy k (hw.trans hk)
  case finite => exact fun x hx => hv.finite x (hw.trans hx)

/-- Where each container is older than those in it, all containers are expressible, as long as they
are tidy and their numbers are finite. -/
theorem of_index_lt
    (hindex : ∀ g h, .container h ∈ (s.cell g).children → g.index < h.index ∧ h.index < s.size)
    (htidy : ∀ g : Handle, g.index < s.size → (s.cell g).Tidy)
    (hfinite : ∀ g x, .float x ∈ (s.cell g).children → x.isFinite = true)
    (hsize : h.index < s.size) : s.Expressible (.container h) := by
  have hstored : ∀ k, s.Holds (.container h) (.container k) → k.index < s.size := by
    rintro k (heq | ⟨g, -, hmem⟩)
    · cases heq
      exact hsize
    · exact (hindex g k hmem).2
  constructor
  case acyclic =>
    exact fun k _ => acyclicFrom_of_index_lt (fun g h hchild => (hindex g h hchild.2).1) k
  case stored => exact hstored
  case tidy => exact fun k hk => htidy k (hstored k hk)
  case finite =>
    rintro x (heq | ⟨g, -, hmem⟩)
    · cases heq
    · exact hfinite g x hmem

end Expressible

/-- What an expressible value is unfolded to stands for it, whatever is open above. -/
theorem unfolds_toTreeFrom {active : List Handle} (hv : s.Expressible v)
    (hbelow : s.Below active v) : s.Unfolds v (s.toTreeFrom active v) := by
  induction active, v using toTreeFrom.induct s with
  | case1 active => rw [toTreeFrom]; exact .null
  | case2 active b => rw [toTreeFrom]; exact .bool b
  | case3 active x hfinite => rw [toTreeFrom, if_pos hfinite]; exact .float hfinite
  | case4 active x hfinite => exact absurd (hv.finite x (.inl rfl)) hfinite
  | case5 active n => rw [toTreeFrom]; exact .integer n
  | case6 active text => rw [toTreeFrom]; exact .string text
  | case7 active h hopen items hcell ih =>
    rw [toTreeFrom, dif_pos hopen, hcell]
    refine .array hopen.1 hcell (List.forall₂_map_right_iff.mpr (List.forall₂_same.mpr ?_))
    intro w hw
    have hmem : w ∈ (s.cell h).children := hcell ▸ hw
    exact ih w (hv.child hmem) (hbelow.child (fun k hk => (hk ▸ hv.child hmem).lt_size) hmem)
  | case8 active h hopen members hcell ih =>
    rw [toTreeFrom, dif_pos hopen, hcell]
    refine .object hopen.1 hcell ?_ ?_
    · rw [Members.names_map]
    · rw [Members.values_map, List.forall₂_map_right_iff, List.forall₂_same]
      intro w hw
      have hmem : w ∈ (s.cell h).children := hcell ▸ hw
      obtain ⟨m, hm, rfl⟩ := List.mem_map.mp hw
      exact ih m (hv.child hmem) (hbelow.child (fun k hk => (hk ▸ hv.child hmem).lt_size) hmem)
  | case9 active h hopen =>
    exact absurd (hbelow.open hv.lt_size (hv.acyclic h rfl h .refl)) hopen

/-- What an expressible value is unfolded to stands for it. -/
theorem unfolds_toTree (hv : s.Expressible v) : s.Unfolds v (s.toTree v) :=
  unfolds_toTreeFrom hv (below_nil s v)

/-! ## Values of other stores -/

/-- All containers of the one store are in the other one as well, and hold the same there. -/
def Keeps (s t : Store) : Prop :=
  ∀ h : Handle, h.index < s.size → h.index < t.size ∧ t.cell h = s.cell h

/-- The tree of a value is its tree in every later store. -/
theorem Unfolds.keep (hunfolds : s.Unfolds v u) (hkeeps : s.Keeps t) : t.Unfolds v u := by
  induction hunfolds using Unfolds.induct with
  | null => exact .null
  | bool b => exact .bool b
  | integer n => exact .integer n
  | float x hfinite => exact .float hfinite
  | string text => exact .string text
  | array h items ts hsize hcell _ ih =>
    obtain ⟨hsize', hcell'⟩ := hkeeps h hsize
    exact .array hsize' (hcell'.trans hcell) (ih.imp fun _ _ hchild => hchild.2)
  | object h members ms hsize hcell hnames _ ih =>
    obtain ⟨hsize', hcell'⟩ := hkeeps h hsize
    exact .object hsize' (hcell'.trans hcell) hnames (ih.imp fun _ _ hchild => hchild.2)

/-- The values have the same structure: the same truth values, strings and numbers of the same
kind, in arrays of the same length and in objects with the same names in the same order. -/
inductive IsCopy (s t : Store) : Value → Value → Prop where
  | scalar {v : Value} (hv : v.isContainer = false) : IsCopy s t v v
  | array {h k : Handle} {items copies : List Value} (hsize : h.index < s.size)
      (hcell : s.cell h = .array items) (hsize' : k.index < t.size)
      (hcell' : t.cell k = .array copies) (hitems : List.Forall₂ (IsCopy s t) items copies) :
      IsCopy s t (.container h) (.container k)
  | object {h k : Handle} {members copies : Members Value} (hsize : h.index < s.size)
      (hcell : s.cell h = .object members) (hsize' : k.index < t.size)
      (hcell' : t.cell k = .object copies) (hnames : members.names = copies.names)
      (hvalues : List.Forall₂ (IsCopy s t) members.values copies.values) :
      IsCopy s t (.container h) (.container k)

theorem Unfolds.eq_integer {n : Int64} (hunfolds : s.Unfolds v (.number (.integer n.toInt))) :
    v = .integer n := by
  generalize hm : n.toInt = m at hunfolds
  cases hunfolds
  rw [Int64.toInt_inj.mp hm]

theorem forall₂_of_common {α β γ : Type} {P : α → γ → Prop} {Q : β → γ → Prop} {R : α → β → Prop}
    {as : List α} {bs : List β} {cs : List γ} (hP : List.Forall₂ P as cs)
    (hQ : List.Forall₂ Q bs cs) (hR : ∀ a b c, P a c → Q b c → R a b) : List.Forall₂ R as bs := by
  induction hP generalizing bs with
  | nil => cases hQ; exact .nil
  | cons hac _ ih =>
    cases hQ with
    | cons hbc hrest => exact .cons (hR _ _ _ hac hbc) (ih hrest)

/-- Values that have a tree in common have the same structure. -/
theorem Unfolds.isCopy (hunfolds : s.Unfolds v u) (hcopy : t.Unfolds w u) : IsCopy s t v w := by
  induction hunfolds using Unfolds.induct generalizing w with
  | null => cases hcopy; exact .scalar rfl
  | bool b => cases hcopy; exact .scalar rfl
  | integer n =>
    rw [hcopy.eq_integer]
    exact .scalar rfl
  | float x hfinite => cases hcopy; exact .scalar rfl
  | string text => cases hcopy; exact .scalar rfl
  | array h items ts hsize hcell _ ih =>
    cases hcopy with
    | array hsize' hcell' hitems' =>
      refine .array hsize hcell hsize' hcell' (forall₂_of_common ih hitems' ?_)
      rintro v w u ⟨-, hv⟩ hw
      exact hv hw
  | object h members ms hsize hcell hnames _ ih =>
    cases hcopy with
    | object hsize' hcell' hnames' hvalues' =>
      refine .object hsize hcell hsize' hcell' (hnames.trans hnames'.symm)
        (forall₂_of_common ih hvalues' ?_)
      rintro v w u ⟨-, hv⟩ hw
      exact hv hw

end DocQuery.Store
