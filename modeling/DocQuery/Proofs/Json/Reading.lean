import Mathlib
import DocQuery.Json.Reader
import DocQuery.Proofs.Json.Lexing
import DocQuery.Proofs.Json.Members

/-!
# Reading Back Printed Trees

The lexemes of a printed tree lead the reader from where it expects a value to where it has read
the tree, with the same arrays and objects open.  Items are read into the open array one after the
other, and members into the open object; a member with a new name comes last.

Trees are read back up to the depth that the reader allows, if they hold no floating-point numbers
and no object has two members of one name.

## Main definitions

- `Tree.lexemes`: the lexemes of a tree
- `Tree.Readable`: what is read back within some levels

## Main statements

- `lexes_print`: the text of a tree
- `run_lexemes`: the reader on the lexemes of a tree
- `read?_text`: the tree is read back
-/

namespace DocQuery.Json

/-! ## The lexemes of a tree -/

namespace Tree

mutual

/-- The lexemes of a tree. -/
def lexemes : Tree → List Lexeme
  | null => [.null]
  | bool b => [.bool b]
  | number n => [.number n]
  | string text => [.string text]
  | array items => .openArray :: (separated (itemLexemes items) ++ [.closeArray])
  | object members => .openObject :: (separated (memberLexemes members) ++ [.closeObject])

/-- The lexemes of the items of an array. -/
def itemLexemes : List Tree → List (List Lexeme)
  | [] => []
  | t :: ts => t.lexemes :: itemLexemes ts

/-- The lexemes of the members of an object. -/
def memberLexemes : List (String × Tree) → List (List Lexeme)
  | [] => []
  | (name, t) :: ms => (.string name :: .colon :: t.lexemes) :: memberLexemes ms

end

/-- Arrays and objects nest at most so deep, all numbers are whole and fit, and no object has two
members of one name. -/
inductive Readable : Nat → Tree → Prop where
  | null (depth : Nat) : Readable depth null
  | bool (depth : Nat) (b : Bool) : Readable depth (bool b)
  | integer (depth : Nat) {n : Int} (hlow : -2 ^ 63 ≤ n) (hhigh : n < 2 ^ 64) :
      Readable depth (number (.integer n))
  | string (depth : Nat) (text : String) : Readable depth (string text)
  | array {depth : Nat} {items : List Tree} (hitems : ∀ t ∈ items, Readable depth t) :
      Readable (depth + 1) (array items)
  | object {depth : Nat} {members : Members Tree} (hnames : members.names.Nodup)
      (hvalues : ∀ t ∈ members.values, Readable depth t) : Readable (depth + 1) (object members)

end Tree

variable {t : Tree} {depth : Nat}

/-! ## Text -/

theorem lexes_printItems {style : Style} {level : Nat} {items : List Tree}
    (h : ∀ t ∈ items, Lexes (t.print .canonical style level) t.lexemes) :
    List.Forall₂ Lexes (Tree.printItems .canonical style level items) (Tree.itemLexemes items) := by
  induction items with
  | nil => exact .nil
  | cons t ts ih =>
    exact .cons (h t List.mem_cons_self) (ih fun u hu => h u (List.mem_cons_of_mem t hu))

theorem lexes_printMembers {style : Style} {level : Nat} {members : Members Tree}
    (h : ∀ t ∈ members.values, Lexes (t.print .canonical style level) t.lexemes) :
    List.Forall₂ Lexes (Tree.printMembers .canonical style level members)
      (Tree.memberLexemes members) := by
  induction members with
  | nil => exact .nil
  | cons m ms ih =>
    obtain ⟨name, t⟩ := m
    refine .cons ?_ (ih fun u hu => h u (List.mem_cons_of_mem t hu))
    have hvalue := h t List.mem_cons_self
    rw [List.append_assoc]
    cases style with
    | compact => exact (lexes_string name).append isMark_colon.ends (hvalue.mark isMark_colon)
    | indented =>
      have hblank : ∀ c ∈ [' '], isBlank c = true := by simp [isBlank]
      exact (lexes_string name).append isMark_colon.ends
        ((hvalue.blanks hblank).mark isMark_colon)

/-- The text of a tree is read as its lexemes, in both styles and at every level. -/
theorem lexes_print (ht : t.Readable depth) (style : Style) (level : Nat) :
    Lexes (t.print .canonical style level) t.lexemes := by
  induction ht generalizing level with
  | null => exact lexes_null
  | bool _ b => exact lexes_bool b
  | integer _ hlow hhigh => exact lexes_integer hlow hhigh
  | string _ text => exact lexes_string text
  | array _ ih =>
    exact lexes_block style level isMark_openArray isMark_closeArray
      (lexes_printItems fun t hmem => ih t hmem (level + 1))
  | object _ _ ih =>
    exact lexes_block style level isMark_openObject isMark_closeObject
      (lexes_printMembers fun t hmem => ih t hmem (level + 1))

/-! ## The reader -/

/-- The reader goes through the lexemes of the tree, wherever it expects a value and whatever is
open. -/
def Reads (depth : Nat) (t : Tree) : Prop :=
  ∀ first frames ls, frames.length + depth ≤ maxDepth →
    run (.value first) frames (t.lexemes ++ ls) = run (.afterValue t) frames ls

/-- Behind an item, the others are read into the open array. -/
theorem run_items {items : List Tree} (h : ∀ t ∈ items, Reads depth t) {frames : List Frame}
    (hdepth : frames.length + 1 + depth ≤ maxDepth) (before : List Tree) (t : Tree)
    (ls : List Lexeme) :
    run (.afterValue t) (.array before :: frames)
        ((Tree.itemLexemes items).flatMap (.comma :: ·) ++ .closeArray :: ls) =
      run (.afterValue (.array (before.reverse ++ t :: items))) frames ls := by
  induction items generalizing before t with
  | nil =>
    show run (.afterValue (.array (t :: before).reverse)) frames ls = _
    rw [List.reverse_cons]
  | cons u us ih =>
    have hread := h u List.mem_cons_self false (.array (t :: before) :: frames)
      ((Tree.itemLexemes us).flatMap (.comma :: ·) ++ .closeArray :: ls) hdepth
    have hrest := ih (fun w hw => h w (List.mem_cons_of_mem u hw)) (t :: before) u
    rw [List.reverse_cons, List.append_assoc, List.singleton_append] at hrest
    rw [Tree.itemLexemes, List.flatMap_cons, List.append_assoc]
    exact hread.trans hrest

theorem reads_array {items : List Tree} (h : ∀ t ∈ items, Reads depth t) :
    Reads (depth + 1) (.array items) := by
  intro first frames ls hdepth
  have hopen : ∀ rest, run (.value first) frames (.openArray :: rest) =
      run (.value true) (.array [] :: frames) rest := fun rest => if_pos (by omega)
  have hinside : frames.length + 1 + depth ≤ maxDepth := by omega
  rw [Tree.lexemes, List.cons_append, List.append_assoc, hopen]
  cases items with
  | nil => rfl
  | cons t ts =>
    have hread := h t List.mem_cons_self true (.array [] :: frames)
      ((Tree.itemLexemes ts).flatMap (.comma :: ·) ++ .closeArray :: ls) hinside
    have hrest := run_items (fun u hu => h u (List.mem_cons_of_mem t hu)) hinside [] t ls
    rw [Tree.itemLexemes, separated, List.append_assoc]
    exact hread.trans hrest

/-- Behind a member, the others are read into the open object. -/
theorem run_members {members : Members Tree} (h : ∀ t ∈ members.values, Reads depth t)
    {frames : List Frame} (hdepth : frames.length + 1 + depth ≤ maxDepth) (before : Members Tree)
    (name : String) (t : Tree) (hnames : (before ++ (name, t) :: members).names.Nodup)
    (ls : List Lexeme) :
    run (.afterValue t) (.object before name :: frames)
        ((Tree.memberLexemes members).flatMap (.comma :: ·) ++ .closeObject :: ls) =
      run (.afterValue (.object (before ++ (name, t) :: members))) frames ls := by
  induction members generalizing before name t with
  | nil =>
    show run (.afterValue (.object (before.set name t))) frames ls = _
    rw [Members.set_of_nodup hnames]
  | cons m ms ih =>
    obtain ⟨other, u⟩ := m
    have hset := Members.set_of_nodup hnames
    have hread := h u List.mem_cons_self false (.object (before.set name t) other :: frames)
      ((Tree.memberLexemes ms).flatMap (.comma :: ·) ++ .closeObject :: ls) hdepth
    have hrest := ih (fun w hw => h w (List.mem_cons_of_mem u hw)) (before.set name t) other u
      (by rwa [hset, List.append_assoc, List.singleton_append])
    rw [hset, List.append_assoc, List.singleton_append, ← hset] at hrest
    rw [Tree.memberLexemes, List.flatMap_cons, List.append_assoc]
    exact hread.trans hrest

theorem reads_object {members : Members Tree} (hnames : members.names.Nodup)
    (h : ∀ t ∈ members.values, Reads depth t) : Reads (depth + 1) (.object members) := by
  intro first frames ls hdepth
  have hopen : ∀ rest, run (.value first) frames (.openObject :: rest) =
      run (.name [] true) frames rest := fun rest => if_pos (by omega)
  have hinside : frames.length + 1 + depth ≤ maxDepth := by omega
  rw [Tree.lexemes, List.cons_append, List.append_assoc, hopen]
  cases members with
  | nil => rfl
  | cons m ms =>
    obtain ⟨name, t⟩ := m
    have hread := h t List.mem_cons_self false (.object [] name :: frames)
      ((Tree.memberLexemes ms).flatMap (.comma :: ·) ++ .closeObject :: ls) hinside
    have hrest := run_members (fun u hu => h u (List.mem_cons_of_mem t hu)) hinside [] name t
      hnames ls
    rw [Tree.memberLexemes, separated, List.append_assoc]
    exact hread.trans hrest

/-- The reader goes through the lexemes of a tree that does not nest too deep. -/
theorem run_lexemes (ht : t.Readable depth) : Reads depth t := by
  induction ht with
  | array _ ih => exact reads_array ih
  | object hnames _ ih => exact reads_object hnames ih
  | _ => exact fun _ _ _ _ => rfl

/-- A tree is read back from its text, in both styles. -/
theorem read?_text (ht : t.Readable maxDepth) (style : Style) :
    read? (t.text .canonical style) = some t := by
  have htext := lexes_print ht style 0 [] ends_nil
  have hread := run_lexemes ht false [] [] (le_of_eq (Nat.zero_add _))
  have hnil : lexemes? [] = some [] := by rw [lexemes?_eq]; rfl
  rw [List.append_nil, hnil, Option.map_some] at htext
  rw [read?, Tree.text, String.toList_ofList, htext, Option.bind_some]
  exact hread

end DocQuery.Json
