import Mathlib
import DocQuery.Query.Navigate

/-!
# Reachable Containers

The containers of a store are the nodes of a graph whose edges lead from a container to those
directly in it.  Containers may be shared, and edges may form cycles.

## Main definitions

- `Store.Child`: a container lies directly in another one
- `Store.Reaches`: a container lies in another one at any depth, or is that container
- `Store.AcyclicFrom`: no container below a root lies below itself
-/

namespace DocQuery.Store

variable {s : Store} {g h : Handle}

/-- The container `h` lies directly in `g`.  A handle without a cell is no container. -/
def Child (s : Store) (g h : Handle) : Prop :=
  h.index < s.size ∧ .container h ∈ (s.cell g).children

/-- The container `h` is reached from `g` by zero or more steps to a child. -/
def Reaches (s : Store) : Handle → Handle → Prop := Relation.ReflTransGen s.Child

/-- No container that is reached from `root` lies below itself. -/
def AcyclicFrom (s : Store) (root : Handle) : Prop :=
  ∀ g, s.Reaches root g → ¬Relation.TransGen s.Child g g

/-- A handle without a cell is an empty array. -/
theorem cell_of_size_le (hsize : s.size ≤ h.index) : s.cell h = .array [] := by
  rw [cell, Array.getElem?_eq_none hsize, Option.getD_none]

/-- Only containers of the store hold something. -/
theorem lt_size_of_mem_children {v : Value} (hv : v ∈ (s.cell h).children) : h.index < s.size := by
  by_contra hge
  rw [cell_of_size_le (Nat.not_lt.mp hge)] at hv
  exact absurd hv List.not_mem_nil

/-- A step along a name leads to a child. -/
theorem mem_children_of_stepName {name : String} {v : Value}
    (hstep : s.stepName (.container g) name = .ok (some v)) : v ∈ (s.cell g).children := by
  unfold stepName at hstep
  cases hcell : s.cell g with
  | object members =>
    simp only [hcell, Except.ok.injEq] at hstep
    exact Json.Members.mem_values_of_get? hstep
  | array items =>
    simp only [hcell] at hstep
    split at hstep
    · split at hstep
      · next item hitem =>
        cases hstep
        exact List.mem_of_getElem? hitem
      · cases hstep
    · cases hstep

theorem lt_size_of_object {members : Json.Members Value} (hcell : s.cell h = .object members) :
    h.index < s.size := by
  by_contra hge
  rw [cell_of_size_le (Nat.not_lt.mp hge)] at hcell
  cases hcell

theorem Child.lt_size (hchild : s.Child g h) : g.index < s.size :=
  lt_size_of_mem_children hchild.2

theorem lt_size_of_transGen (hbelow : Relation.TransGen s.Child g h) : g.index < s.size := by
  obtain ⟨k, hchild, -⟩ := Relation.TransGen.head'_iff.mp hbelow
  exact hchild.lt_size

theorem Reaches.trans {k : Handle} (hgh : s.Reaches g h) (hhk : s.Reaches h k) : s.Reaches g k :=
  Relation.ReflTransGen.trans hgh hhk

theorem AcyclicFrom.of_reaches (hacyclic : s.AcyclicFrom g) (hreach : s.Reaches g h) :
    s.AcyclicFrom h :=
  fun k hk => hacyclic k (hreach.trans hk)

/-- Where each container is older than those in it, none lies below itself. -/
theorem acyclicFrom_of_index_lt (hindex : ∀ g h, s.Child g h → g.index < h.index)
    (root : Handle) : s.AcyclicFrom root := by
  have hbelow : ∀ {g h}, Relation.TransGen s.Child g h → g.index < h.index := by
    intro g h hpath
    induction hpath with
    | single hchild => exact hindex _ _ hchild
    | tail _ hchild ih => exact Nat.lt_trans ih (hindex _ _ hchild)
  intro g _ hcycle
  exact Nat.lt_irrefl _ (hbelow hcycle)

end DocQuery.Store
