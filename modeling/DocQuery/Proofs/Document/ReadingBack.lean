import Mathlib
import DocQuery.Document.Basic
import DocQuery.Proofs.Json.Reading
import DocQuery.Proofs.Store.Loading
import DocQuery.Proofs.Store.Unfolding

/-!
# Reading Back Printed Documents

The text of a value is the text of the tree that it is unfolded to.  If the value holds no
floating-point numbers and its containers do not nest too deep, the reader gets this tree back, and
what is loaded from it is a copy of the value.

## Main definitions

- `Store.NestsWithin`: how deep the containers of a value nest

## Main statements

- `Store.Unfolds.readable`: the tree of such a value is read back
- `Store.print_reads_back`: its text makes a document with the same structure
-/

namespace DocQuery.Store

open DocQuery.Json (Members Style Tree)

variable {s : Store} {v : Value} {u : Tree} {h : Handle}

/-- There are at most so many containers on each way down from the value, itself included. -/
def NestsWithin (s : Store) : Nat → Value → Prop
  | 0, v => v.isContainer = false
  | depth + 1, v => ∀ w ∈ s.children v, s.NestsWithin depth w

instance decidableNestsWithin (s : Store) : ∀ depth v, Decidable (s.NestsWithin depth v)
  | 0, v => inferInstanceAs (Decidable (v.isContainer = false))
  | depth + 1, v =>
    have := decidableNestsWithin s depth
    inferInstanceAs (Decidable (∀ w ∈ s.children v, s.NestsWithin depth w))

/-- The trees of what a container holds are readable one level below it. -/
theorem NestsWithin.readable_children {depth : Nat} {vs : List Value} {us : List Tree}
    (hdepth : s.NestsWithin (depth + 1) (.container h)) (hv : s.Expressible (.container h))
    (hfloat : ∀ x, ¬s.Holds (.container h) (.float x)) (hmem : ∀ v ∈ vs, v ∈ (s.cell h).children)
    (htrees : List.Forall₂ (fun v u => ∃ _ : s.Unfolds v u, ∀ depth, s.Expressible v →
      (∀ x, ¬s.Holds v (.float x)) → s.NestsWithin depth v → u.Readable depth) vs us) :
    ∀ u ∈ us, u.Readable depth := by
  intro u hu
  obtain ⟨v, hv', -, htree⟩ := exists_of_mem_left htrees.flip hu
  have hchild := hmem v hv'
  have hholds : s.Holds (.container h) v := Holds.child (.inl rfl) hchild
  exact htree depth (hv.child hchild) (fun x hx => hfloat x (hholds.trans hx)) (hdepth v hchild)

/-- The tree of an expressible value without floating-point numbers is read back within as many
levels as its containers nest. -/
theorem Unfolds.readable (hunfolds : s.Unfolds v u) (depth : Nat) (hv : s.Expressible v)
    (hfloat : ∀ x, ¬s.Holds v (.float x)) (hdepth : s.NestsWithin depth v) : u.Readable depth := by
  induction hunfolds using Unfolds.induct generalizing depth with
  | null => exact .null depth
  | bool b => exact .bool depth b
  | integer n =>
    have hhigh : n.toInt < 2 ^ 63 := Int64.toInt_lt n
    exact .integer depth (Int64.minValue_le_toInt n) (by omega)
  | float x => exact absurd (.inl rfl) (hfloat x)
  | string text => exact .string depth text
  | array h items ts hsize hcell _ ih =>
    cases depth with
    | zero => cases hdepth
    | succ depth =>
      exact .array (hdepth.readable_children hv hfloat (fun v hmem => hcell ▸ hmem) ih)
  | object h members ms hsize hcell hnames _ ih =>
    cases depth with
    | zero => cases hdepth
    | succ depth =>
      have hdistinct : members.names.Nodup := (hv.tidy h (.inl rfl)).distinct members hcell
      exact .object (hnames ▸ hdistinct) (hdepth.readable_children hv hfloat
        (fun v (hmem : v ∈ members.values) => hcell ▸ hmem) ih)

/-- The text of an expressible value without floating-point numbers whose containers nest at most
127 deep, on one line or with one item a line, makes a document in any store, and its root has the
same structure as the value. -/
theorem print_reads_back (hv : s.Expressible v) (hfloat : ∀ x, ¬s.Holds v (.float x))
    (hdepth : s.NestsWithin 127 v) (t : Store) (style : Style) :
    ∃ d, Document.ofText? t (s.print .canonical style v) = some d ∧
      IsCopy s d.store v d.root := by
  have hread := Json.read?_text ((unfolds_toTree hv).readable 127 hv hfloat hdepth) style
  refine ⟨⟨(t.load (s.toTree v)).2, (t.load (s.toTree v)).1⟩, ?_, isCopy_load hv t⟩
  rw [Document.ofText?, loadText?, print_eq_text_toTree, hread]
  rfl

/-- Names and strings with quotes, control characters and characters beyond U+FFFF, the least
integer, an array that is shared, and containers without content. -/
theorem print_reads_back_escapes :
    let s : Store := ⟨#[.object [("\x01\"é😀\\", .container ⟨1⟩), ("", .container ⟨1⟩),
      ("empty", .container ⟨2⟩)],
      .array [.integer (-9223372036854775808), .bool true, .string "a\n\x7f/\t", .container ⟨3⟩],
      .object [], .array []]⟩
    s.Expressible (.container ⟨0⟩) ∧ (∀ x, ¬s.Holds (.container ⟨0⟩) (.float x)) ∧
      s.NestsWithin 127 (.container ⟨0⟩) ∧
      ∃ d, Document.ofText? {} (s.print .canonical .indented (.container ⟨0⟩)) = some d ∧
        IsCopy s d.store (.container ⟨0⟩) d.root := by
  intro s
  have hnone : ∀ g x, .float x ∉ (s.cell g).children := by
    rintro ⟨i⟩ x hmem
    have hi : i < 4 := lt_size_of_mem_children hmem
    interval_cases i <;> simp [s, cell, Cell.children] at hmem
  have hv : s.Expressible (.container ⟨0⟩) := by
    refine .of_index_lt ?_ ?_ (fun g x hmem => absurd hmem (hnone g x)) (by decide)
    · rintro ⟨i⟩ ⟨j⟩ hmem
      have hi : i < 4 := lt_size_of_mem_children hmem
      interval_cases i <;> simp_all [s, cell, Cell.children, size]
      omega
    · rintro ⟨i⟩ (hi : i < 4)
      interval_cases i
      · exact Cell.tidy_object (by simp [Members.values]) (by decide)
      · exact Cell.tidy_array (by simp)
      · exact Cell.tidy_object (by simp [Members.values]) (by decide)
      · exact Cell.tidy_array (by simp)
  have hfloat : ∀ x, ¬s.Holds (.container ⟨0⟩) (.float x) := by
    rintro x (heq | ⟨g, -, hmem⟩)
    · cases heq
    · exact hnone g x hmem
  have hdepth : s.NestsWithin 127 (.container ⟨0⟩) := by decide +kernel
  exact ⟨hv, hfloat, hdepth, print_reads_back hv hfloat hdepth {} .indented⟩

end DocQuery.Store
