import Mathlib
import DocQuery.Expression.Tree

/-!
# Trees Behind Postfix Lists

A list of items in postfix order is evaluated on a stack, without a tree in sight.  It has a value
only where it lists one tree, and then the value is that of the tree.  The tree can be read off
the list by a second machine that moves in step with the first one, but stacks trees instead of
operands.

## Main definitions

- `Item.grow`, `growItems`: the machine that stacks trees

## Main statements

- `growItems_postorder`, `listing_of_growItems`: the trees on the stack are those listed so far
- `length_run`, `length_runItems`: where the stack of operands can move, so can the stack of trees
- `evaluatePostfix_eq_tree`: what the value of a list is, and which lists have none
-/

namespace DocQuery.Expression

/-! ## Stacking trees -/

/-- What an item makes of the trees on the stack, the last one of which lies on top. -/
def Item.grow : Item → List Tree → Option (List Tree)
  | .literal l, trees => some (.literal l :: trees)
  | .operator .negation, t :: trees => some (.negation t :: trees)
  | .operator (.binary op), r :: l :: trees => some (.binary op l r :: trees)
  | .operator _, _ => none

/-- What a list of items makes of the trees on the stack. -/
def growItems (trees : List Tree) : List Item → Option (List Tree)
  | [] => some trees
  | item :: items => (item.grow trees).bind fun trees => growItems trees items

/-- The items of the trees on a stack, from the bottom to the top. -/
def listing (trees : List Tree) : List Item := trees.reverse.flatMap Tree.postorder

theorem listing_cons (t : Tree) (trees : List Tree) :
    listing (t :: trees) = listing trees ++ t.postorder := by
  simp [listing]

theorem growItems_append (trees : List Tree) (items more : List Item) :
    growItems trees (items ++ more) =
      (growItems trees items).bind fun trees => growItems trees more := by
  induction items generalizing trees with
  | nil => rfl
  | cons item items ih =>
    simp only [List.cons_append, growItems, Option.bind_assoc]
    exact congrArg _ (funext fun trees => ih trees)

/-- The items of a tree put that tree on the stack. -/
theorem growItems_postorder (t : Tree) (trees : List Tree) :
    growItems trees t.postorder = some (t :: trees) := by
  induction t generalizing trees with
  | literal l => rfl
  | negation t ih =>
    rw [Tree.postorder, growItems_append, ih]
    rfl
  | binary op l r ihl ihr =>
    rw [Tree.postorder, growItems_append, growItems_append, ihl, Option.bind_some, ihr]
    rfl

/-- A list of items is the listing of one tree at most. -/
theorem postorder_injective : Function.Injective Tree.postorder := by
  intro t u h
  have hgrow := growItems_postorder t []
  rw [h, growItems_postorder] at hgrow
  exact ((List.cons.inj (Option.some.inj hgrow)).1).symm

theorem listing_of_grow {item : Item} {trees grown : List Tree}
    (h : item.grow trees = some grown) : listing trees ++ [item] = listing grown := by
  unfold Item.grow at h
  -- the trees that an item takes are on top, so their items come last in the listing
  split at h
  · cases h
    rw [listing_cons, Tree.postorder]
  · cases h
    rw [listing_cons, listing_cons, Tree.postorder, List.append_assoc]
  · cases h
    simp only [listing_cons, Tree.postorder, List.append_assoc]
  · cases h

/-- No item is lost: the trees at the end list those at the start and then the items. -/
theorem listing_of_growItems {items : List Item} {trees grown : List Tree}
    (h : growItems trees items = some grown) : listing trees ++ items = listing grown := by
  induction items generalizing trees with
  | nil =>
    cases h
    exact List.append_nil _
  | cons item items ih =>
    obtain ⟨middle, hitem, hitems⟩ := Option.bind_eq_some_iff.mp h
    rw [List.append_cons, listing_of_grow hitem]
    exact ih hitems

/-! ## Two stacks in step -/

/-- An item that finds its operands finds as many trees. -/
theorem length_run {item : Item} {stack after : List Operand} {trees : List Tree}
    (hlength : trees.length = stack.length) (h : item.run stack = .ok after) :
    ∃ grown, item.grow trees = some grown ∧ grown.length = after.length := by
  cases item with
  | literal l =>
    cases h
    exact ⟨.literal l :: trees, rfl, congrArg (· + 1) hlength⟩
  | operator op =>
    change op.run stack = .ok after at h
    unfold Operator.run at h
    split at h
    · next b rest =>
      -- negation takes one operand, and one tree
      obtain ⟨t, trees, rfl⟩ := List.exists_cons_of_length_eq_add_one hlength
      cases hvalue : negate b with
      | error e => rw [hvalue] at h; cases h
      | ok x =>
        rw [hvalue] at h
        cases h
        exact ⟨.negation t :: trees, rfl, hlength⟩
    · next op b a rest =>
      -- any other operator takes two
      obtain ⟨r, trees, rfl⟩ := List.exists_cons_of_length_eq_add_one hlength
      obtain ⟨l, trees, rfl⟩ :=
        List.exists_cons_of_length_eq_add_one (Nat.add_right_cancel hlength)
      cases hvalue : op.combine a b with
      | error e => rw [hvalue] at h; cases h
      | ok x =>
        rw [hvalue] at h
        cases h
        exact ⟨.binary op l r :: trees, rfl, Nat.add_right_cancel hlength⟩
    · cases h

/-- Items that all find their operands find as many trees. -/
theorem length_runItems {items : List Item} {stack after : List Operand} {trees : List Tree}
    (hlength : trees.length = stack.length) (h : runItems stack items = .ok after) :
    ∃ grown, growItems trees items = some grown ∧ grown.length = after.length := by
  induction items generalizing stack trees with
  | nil =>
    cases h
    exact ⟨trees, rfl, hlength⟩
  | cons item items ih =>
    rw [runItems] at h
    cases hitem : item.run stack with
    | error e => rw [hitem] at h; cases h
    | ok middle =>
      rw [hitem] at h
      obtain ⟨grown, hgrown, hgrownLength⟩ := length_run hlength hitem
      obtain ⟨last, hlast, hlastLength⟩ := ih hgrownLength h
      refine ⟨last, ?_, hlastLength⟩
      rw [growItems, hgrown]
      exact hlast

/-! ## Values of lists -/

theorem evaluatePostfix_postorder (t : Tree) : evaluatePostfix t.postorder = t.truthValue := by
  rw [evaluatePostfix, Tree.runItems_postorder, Tree.truthValue]
  cases t.value <;> rfl

/-- A list that has a value lists a tree. -/
theorem exists_postorder_of_evaluatePostfix {items : List Item} {b : Bool}
    (h : evaluatePostfix items = .ok b) : ∃ t : Tree, items = t.postorder := by
  rw [evaluatePostfix] at h
  cases hrun : runItems [] items with
  | error e => rw [hrun] at h; cases h
  | ok stack =>
    rw [hrun] at h
    have hempty : ([] : List Tree).length = ([] : List Operand).length := rfl
    obtain ⟨trees, hgrow, hlength⟩ := length_runItems hempty hrun
    have hlisting := listing_of_growItems hgrow
    -- a verdict is given on a single operand only
    match stack, hlength, h with
    | [a], hlength, _ =>
      obtain ⟨t, rfl⟩ := List.length_eq_one_iff.mp hlength
      exact ⟨t, by simpa [listing] using hlisting⟩

/-- A list of items that lists a tree, which can be one tree only, has the value of that tree: the
error that the tree meets first, and else true for the number one and false for any other number
and for text.  A list that lists no tree, or several of them, has no value. -/
theorem evaluatePostfix_eq_tree (items : List Item) :
    (∀ t : Tree, items = t.postorder →
      (∀ u : Tree, items = u.postorder → u = t) ∧
      evaluatePostfix items =
        match t.value with
        | .error e => .error e
        | .ok (.number x) => .ok (x == 1)
        | .ok (.text _) => .ok false) ∧
    ((¬∃ t : Tree, items = t.postorder) → ∃ e, evaluatePostfix items = .error e) := by
  constructor
  · rintro t rfl
    refine ⟨fun u hu => (postorder_injective hu).symm, ?_⟩
    rw [evaluatePostfix_postorder, Tree.truthValue]
    cases t.value with
    | error e => rfl
    | ok a => cases a <;> rfl
  · intro hnone
    cases hvalue : evaluatePostfix items with
    | error e => exact ⟨e, rfl⟩
    | ok b => exact absurd (exists_postorder_of_evaluatePostfix hvalue) hnone

/-- A comparison of texts under a negation is a tree; two texts side by side are none. -/
theorem evaluatePostfix_eq_tree_negation :
    let a : Literal := .string "a"
    let b : Literal := .string "b"
    evaluatePostfix [.literal a, .literal b, .operator (.binary .equal), .operator .negation] =
        .ok true ∧
      ∃ e, evaluatePostfix [.literal a, .literal b] = .error e := by
  intro a b
  constructor
  · have htree := (evaluatePostfix_eq_tree _).1
      (.negation (.binary .equal (.literal a) (.literal b))) rfl
    have hvalue : (truth (truth ("a" == "b") == 0) == 1) = true := by decide +kernel
    exact htree.2.trans (congrArg Except.ok hvalue)
  · refine (evaluatePostfix_eq_tree _).2 ?_
    rintro ⟨t, ht⟩
    have hgrow := growItems_postorder t []
    rw [← ht] at hgrow
    cases hgrow

end DocQuery.Expression
