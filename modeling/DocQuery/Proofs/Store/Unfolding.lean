import Mathlib
import DocQuery.Proofs.Json.Blanks
import DocQuery.Store.Render

/-!
# Unfolded Values

A value can be printed directly or unfolded into a tree first.  Both go down a store in which
containers may be shared and may lie below themselves, and both keep track of the containers that
are open above the one they are at.  The text is the same either way, and so nothing is cut off in
the one that is not cut off in the other.

## Main definitions

- `Tree.at?`: the part of a tree at a place
- `Store.meets?`: what is met at this place in the store, and below which containers
- `Store.Omitted`: what stands as `null`

## Main statements

- `print_toTreeFrom`: printing the tree is printing the value
- `at?_toTreeFrom`: each place of the tree is one of the store
- `print_eq_print_toTree`: both styles of the text, and where `null` stands in it
-/

namespace DocQuery

open DocQuery.Json

/-! ## Places in a tree -/

namespace Json.Tree

/-- The trees directly in a tree. -/
def children : Tree → List Tree
  | array items => items
  | object members => members.map Prod.snd
  | _ => []

/-- The part of a tree at a place, which is given by the number of a child on each level. -/
def at? (t : Tree) : List Nat → Option Tree
  | [] => some t
  | i :: place => t.children[i]?.bind fun child => child.at? place

theorem printItems_map {α : Type} (sp : Spelling) (style : Style) (level : Nat) (f : α → Tree)
    (values : List α) :
    printItems sp style level (values.map f) = values.map fun v => (f v).print sp style level := by
  induction values with
  | nil => rfl
  | cons v values ih => rw [List.map_cons, printItems, ih, List.map_cons]

theorem printMembers_map {α : Type} (sp : Spelling) (style : Style) (level : Nat) (f : α → Tree)
    (members : List (String × α)) :
    printMembers sp style level (members.map fun m => (m.1, f m.2)) =
      members.map fun m => sp.string m.1 ++ style.colon ++ (f m.2).print sp style level := by
  induction members with
  | nil => rfl
  | cons m members ih => rw [List.map_cons, printMembers, ih, List.map_cons]

end Json.Tree

namespace Store

variable (s : Store)

/-! ## Printing -/

/-- Printing the tree of a value is printing the value, whatever is open above it. -/
theorem print_toTreeFrom (sp : Spelling) (style : Style) (active : List Handle) (level : Nat)
    (v : Value) :
    (s.toTreeFrom active v).print sp style level = s.printFrom sp style active level v := by
  induction active, v using toTreeFrom.induct s generalizing level with
  | case1 active => rw [toTreeFrom, printFrom, Tree.print]
  | case2 active b => rw [toTreeFrom, printFrom, Tree.print]
  | case3 active x hfinite =>
    rw [toTreeFrom, printFrom, if_pos hfinite, Tree.print]
    rfl
  | case4 active x hfinite =>
    rw [toTreeFrom, printFrom, if_neg hfinite, Tree.print, Spelling.number, if_neg hfinite]
    rfl
  | case5 active n =>
    rw [toTreeFrom, printFrom, Tree.print]
    rfl
  | case6 active t => rw [toTreeFrom, printFrom, Tree.print]
  | case7 active h hopen items hcell ih =>
    rw [toTreeFrom, printFrom, dif_pos hopen, dif_pos hopen, hcell]
    simp only [Tree.print, Tree.printItems_map, ih]
  | case8 active h hopen members hcell ih =>
    rw [toTreeFrom, printFrom, dif_pos hopen, dif_pos hopen, hcell]
    simp only [Tree.print, Tree.printMembers_map, ih]
  | case9 active h hopen => rw [toTreeFrom, printFrom, dif_neg hopen, dif_neg hopen, Tree.print]

theorem print_eq_text_toTree (sp : Spelling) (style : Style) (v : Value) :
    s.print sp style v = (s.toTree v).text sp style := by
  rw [print, Tree.text, toTree, print_toTreeFrom]

/-! ## Places in a store -/

/-- The value that is met at a place below `v`, and the containers that it is met below, when the
containers `above` are those on the way to `v`.  The way ends where a container is met again. -/
def meets? (above : List Handle) (v : Value) : List Nat → Option (List Handle × Value)
  | [] => some (above, v)
  | i :: place =>
    match v with
    | .container h =>
      if h ∈ above then none
      else (s.cell h).children[i]?.bind fun w => meets? (h :: above) w place
    | _ => none

/-- What stands as `null` below the containers `above`. -/
inductive Omitted (above : List Handle) : Value → Prop where
  /-- The absent value -/
  | null : Omitted above .null
  /-- A number that is not finite -/
  | float {x : Float} (h : x.isFinite = false) : Omitted above (.float x)
  /-- A container that is met below itself -/
  | again {h : Handle} (hmem : h ∈ above) : Omitted above (.container h)
  /-- A handle without a cell -/
  | missing {h : Handle} (hsize : s.size ≤ h.index) : Omitted above (.container h)

variable {s} {above : List Handle} {h : Handle} {v : Value}

theorem toTreeFrom_eq_null_iff : s.toTreeFrom above v = .null ↔ s.Omitted above v := by
  constructor
  · intro hnull
    cases v with
    | null => exact .null
    | float x =>
      rw [toTreeFrom] at hnull
      split at hnull
      · cases hnull
      · next hfinite => exact .float (Bool.eq_false_of_not_eq_true hfinite)
    | container h =>
      rw [toTreeFrom] at hnull
      split at hnull
      · split at hnull <;> cases hnull
      · next hopen =>
        by_cases hsize : h.index < s.size
        · have hmem : ¬above.contains h = false := fun hnew => hopen ⟨hsize, hnew⟩
          exact .again (by simpa using hmem)
        · exact .missing (Nat.not_lt.mp hsize)
    | _ =>
      rw [toTreeFrom] at hnull
      cases hnull
  · intro homitted
    cases homitted with
    | null => rw [toTreeFrom]
    | float hfinite => rw [toTreeFrom, if_neg (by simp [hfinite])]
    | again hmem => rw [toTreeFrom, dif_neg (by simp [hmem])]
    | missing hsize => rw [toTreeFrom, dif_neg (by omega)]

/-- Unfolding a container unfolds what is in it, unless the container is open already. -/
theorem children_toTreeFrom_container :
    (s.toTreeFrom above (.container h)).children =
      if h ∈ above then [] else (s.cell h).children.map (s.toTreeFrom (h :: above)) := by
  rw [toTreeFrom]
  split
  · next hopen =>
    have hnew : h ∉ above := by simpa using hopen.2
    rw [if_neg hnew]
    cases s.cell h with
    | array items => rfl
    | object members => simp [Tree.children, Cell.children]
  · next hopen =>
    split
    · rfl
    · next hnew =>
      -- a handle without a cell has nothing in it
      have hsize : s.size ≤ h.index := by
        by_contra hlt
        exact hopen ⟨Nat.not_le.mp hlt, by simpa using hnew⟩
      rw [cell, Array.getElem?_eq_none hsize]
      rfl

/-- A part of the tree is the tree of what is met at its place. -/
theorem at?_toTreeFrom (place : List Nat) :
    (s.toTreeFrom above v).at? place =
      (s.meets? above v place).map fun met => s.toTreeFrom met.1 met.2 := by
  induction place generalizing above v with
  | nil => rfl
  | cons i place ih =>
    rw [Tree.at?]
    cases v with
    | container h =>
      rw [children_toTreeFrom_container, meets?]
      split
      · rfl
      · rw [List.getElem?_map]
        cases (s.cell h).children[i]? with
        | none => rfl
        | some w => exact ih
    | float x =>
      rw [toTreeFrom]
      split <;> rfl
    | _ =>
      rw [toTreeFrom]
      rfl

/-- However containers are shared, and also where they lie below themselves: the text of a value is
that of the finite tree that it unfolds to, on one line and with one item a line, and the blanks
outside strings are all there is between the two.  In the tree `null` stands exactly where the value
is absent or a number that is not finite, or where a container is met again below itself. -/
theorem print_eq_print_toTree (s : Store) (v : Value) :
    s.text v = (s.toTree v).text .canonical .compact ∧
      s.print .canonical .indented v = (s.toTree v).text .canonical .indented ∧
      withoutBlanks .outside (s.print .canonical .indented v).toList = (s.text v).toList ∧
      ∀ place, (s.toTree v).at? place = some .null ↔
        ∃ above w, s.meets? [] v place = some (above, w) ∧ s.Omitted above w := by
  refine ⟨s.print_eq_text_toTree _ _ v, s.print_eq_text_toTree _ _ v, ?_, fun place => ?_⟩
  · rw [text, print_eq_text_toTree, print_eq_text_toTree]
    simp only [Tree.text, String.toList_ofList]
    exact withoutBlanks_print _
  · rw [toTree, at?_toTreeFrom, Option.map_eq_some_iff]
    constructor
    · rintro ⟨⟨above, w⟩, hmeets, hnull⟩
      exact ⟨above, w, hmeets, toTreeFrom_eq_null_iff.mp hnull⟩
    · rintro ⟨above, w, hmeets, homitted⟩
      exact ⟨(above, w), hmeets, toTreeFrom_eq_null_iff.mpr homitted⟩

end Store

end DocQuery
