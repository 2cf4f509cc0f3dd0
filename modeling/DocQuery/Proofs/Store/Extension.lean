import Mathlib
import DocQuery.Proofs.Json.Members
import DocQuery.Store.Render

/-!
# Extended Stores

A store is extended when its containers only get longer: whatever a container holds stays where it
is, and what is new comes behind it.  The tree of a value is extended together with the store, on
all levels, and also where containers lie below themselves.

## Main definitions

- `Cell.ExtendedBy`, `Store.ExtendedBy`: the containers of a store get longer
- `Json.Tree.ExtendedBy`: so do the arrays and objects of a tree

## Main statements

- `Store.extendedBy_toTree`: the tree of a value is extended together with the store
-/

namespace DocQuery

open DocQuery.Json (Members Tree)

/-! ## Cells -/

namespace Cell

/-- The elements or members of a cell are the first ones of the other cell. -/
inductive ExtendedBy : Cell → Cell → Prop where
  | array {items longer : List Value} (h : items <+: longer) :
      ExtendedBy (.array items) (.array longer)
  | object {members longer : Members Value} (h : members <+: longer) :
      ExtendedBy (.object members) (.object longer)

theorem ExtendedBy.exists_of_array {items : List Value} {c : Cell}
    (h : (Cell.array items).ExtendedBy c) : ∃ more, c = .array (items ++ more) := by
  cases h with
  | array h => exact h.imp fun more heq => by rw [heq]

theorem ExtendedBy.exists_of_object {members : Members Value} {c : Cell}
    (h : (Cell.object members).ExtendedBy c) : ∃ more, c = .object (members ++ more) := by
  cases h with
  | object h => exact h.imp fun more heq => by rw [heq]

theorem ExtendedBy.refl : ∀ c : Cell, c.ExtendedBy c
  | .array items => .array items.prefix_rfl
  | .object members => .object members.prefix_rfl

theorem ExtendedBy.trans {a b c : Cell} (hab : a.ExtendedBy b) (hbc : b.ExtendedBy c) :
    a.ExtendedBy c := by
  cases hab with
  | array hab => cases hbc with | array hbc => exact .array (hab.trans hbc)
  | object hab => cases hbc with | object hbc => exact .object (hab.trans hbc)

end Cell

/-! ## Trees -/

/-- On every level the items or members of an array or object are extended one by one, and there may
be more behind them; everything else is the same. -/
inductive Json.Tree.ExtendedBy : Json.Tree → Json.Tree → Prop where
  | null : ExtendedBy .null .null
  | bool (b : Bool) : ExtendedBy (.bool b) (.bool b)
  | number (n : Json.Number) : ExtendedBy (.number n) (.number n)
  | string (text : String) : ExtendedBy (.string text) (.string text)
  | array {items kept : List Tree} (more : List Tree)
      (hitems : List.Forall₂ ExtendedBy items kept) :
      ExtendedBy (.array items) (.array (kept ++ more))
  | object {members kept : Members Tree} (more : Members Tree)
      (hnames : kept.names = members.names)
      (hvalues : List.Forall₂ ExtendedBy members.values kept.values) :
      ExtendedBy (.object members) (.object (kept ++ more))

namespace Store

variable {s t : Store}

/-- The other store has the same containers, and they hold what they did and maybe more. -/
structure ExtendedBy (s t : Store) : Prop where
  size_eq : t.size = s.size
  cell : ∀ h : Handle, h.index < s.size → (s.cell h).ExtendedBy (t.cell h)

theorem ExtendedBy.refl (s : Store) : s.ExtendedBy s := ⟨rfl, fun h _ => .refl (s.cell h)⟩

theorem ExtendedBy.trans {r : Store} (hst : s.ExtendedBy t) (htr : t.ExtendedBy r) :
    s.ExtendedBy r where
  size_eq := htr.size_eq.trans hst.size_eq
  cell h hsize := (hst.cell h hsize).trans (htr.cell h (hst.size_eq ▸ hsize))

/-- The tree of a value is extended, whatever is open above it. -/
theorem extendedBy_toTreeFrom (hst : s.ExtendedBy t) (active : List Handle) (v : Value) :
    (s.toTreeFrom active v).ExtendedBy (t.toTreeFrom active v) := by
  -- along the unfolding in the first store; in the other one the same containers are open
  induction active, v using toTreeFrom.induct s with
  | case1 active => rw [toTreeFrom, toTreeFrom]; exact .null
  | case2 active b => rw [toTreeFrom, toTreeFrom]; exact .bool b
  | case3 active x hfinite =>
    rw [toTreeFrom, toTreeFrom, if_pos hfinite]
    exact .number _
  | case4 active x hfinite =>
    rw [toTreeFrom, toTreeFrom, if_neg hfinite]
    exact .null
  | case5 active n => rw [toTreeFrom, toTreeFrom]; exact .number _
  | case6 active text => rw [toTreeFrom, toTreeFrom]; exact .string text
  | case7 active h hopen items hcell ih =>
    obtain ⟨more, hcell'⟩ := (hcell ▸ hst.cell h hopen.1).exists_of_array
    rw [toTreeFrom, toTreeFrom, dif_pos hopen, dif_pos (hst.size_eq ▸ hopen), hcell, hcell']
    simp only [List.map_append]
    refine .array _ ?_
    rw [List.forall₂_map_left_iff, List.forall₂_map_right_iff, List.forall₂_same]
    exact fun v _ => ih v
  | case8 active h hopen members hcell ih =>
    obtain ⟨more, hcell'⟩ := (hcell ▸ hst.cell h hopen.1).exists_of_object
    rw [toTreeFrom, toTreeFrom, dif_pos hopen, dif_pos (hst.size_eq ▸ hopen), hcell, hcell']
    simp only [List.map_append]
    refine .object _ ?_ ?_
    · rw [Members.names_map, Members.names_map]
    · rw [Members.values, Members.values, List.forall₂_map_left_iff, List.forall₂_map_right_iff,
        List.forall₂_map_left_iff, List.forall₂_map_right_iff, List.forall₂_same]
      exact fun m _ => ih m
  | case9 active h hopen =>
    rw [toTreeFrom, toTreeFrom, dif_neg hopen, dif_neg (hst.size_eq ▸ hopen)]
    exact .null

theorem extendedBy_toTree (hst : s.ExtendedBy t) (v : Value) :
    (s.toTree v).ExtendedBy (t.toTree v) := extendedBy_toTreeFrom hst [] v

end Store

end DocQuery
