import Mathlib
import DocQuery.Query.Find

/-!
# The Marker of the Root

A dollar sign in front of a path marks the root, and so does a single dot in front of a path that
has no marker itself.  Paths are cut into fragments behind these marks, so a marked path has the
segments of the path.

The two paths that name the value itself, the empty one and a single dot, are recognized before any
mark is taken off.  They name any value.  With a dollar sign in front they have no segments, and
then they still name a container, but find nothing from any other value.

## Main statements

- `parse_dollar`, `parse_dot`: a marked path has the segments of the path
- `find_rootMarker`: when a marked path finds what the path finds
-/

namespace DocQuery.Store

open DocQuery.Path

variable {s : Store} {root : Value}

/-! ## Segments -/

/-- What stands in front of a path as a mark does not show in its segments. -/
theorem parse_congr {marked path : String} (h : stripRoot marked.toList = stripRoot path.toList) :
    parse marked = parse path := by
  rw [parse, parse, split, split, h]

/-- A dollar sign in front adds no segment. -/
theorem parse_dollar (path : String) : parse ("$" ++ path) = parse path := by
  apply parse_congr
  rw [String.toList_append]
  rfl

/-- A text that begins with neither of the marks is left as it is. -/
theorem stripRoot_cons {c : Char} (hdot : c ≠ '.') (hdollar : c ≠ '$') (cs : List Char) :
    stripRoot (c :: cs) = c :: cs := by
  have hrun : (c :: cs).dropWhile (· == '$') = c :: cs :=
    List.dropWhile_cons_of_neg (by simpa using hdollar)
  rw [stripRoot, hrun]
  split
  · next h => exact absurd (List.cons.inj h).1 hdot
  · next h => exact absurd (List.cons.inj h).1 hdot
  · rfl

/-- A single dot in front is taken off. -/
theorem stripRoot_dot_cons {c : Char} (hdot : c ≠ '.') (cs : List Char) :
    stripRoot ('.' :: c :: cs) = c :: cs := by
  have hrun : ('.' :: c :: cs).dropWhile (· == '$') = '.' :: c :: cs :=
    List.dropWhile_cons_of_neg (by decide)
  rw [stripRoot, hrun]
  split
  · next h => exact absurd (List.cons.inj (List.cons.inj h).2).1 hdot
  · next h => exact (List.cons.inj h).2.symm
  · next h => exact absurd rfl (h (c :: cs))

/-- A dot in front adds no segment, unless it makes a search marker or stands before a dollar
sign. -/
theorem parse_dot {path : String} (hdot : path.toList.head? ≠ some '.')
    (hdollar : path.toList.head? ≠ some '$') : parse ("." ++ path) = parse path := by
  apply parse_congr
  have hmarked : ("." ++ path).toList = '.' :: path.toList := String.toList_append
  rw [hmarked]
  cases htext : path.toList with
  | nil => rfl
  | cons c cs =>
    rw [htext, List.head?_cons] at hdot hdollar
    have hc : c ≠ '.' := fun h => hdot (congrArg some h)
    have hc' : c ≠ '$' := fun h => hdollar (congrArg some h)
    rw [stripRoot_dot_cons hc, stripRoot_cons hc hc']

/-! ## Results -/

/-- From a container a path finds what its segments find, also if it names the container itself:
then it has none. -/
theorem find_of_container (hroot : root.isContainer = true) (path : String) :
    s.find root path = s.runSegments (parse path) [root] := by
  rw [find]
  split
  · next h =>
    -- a path with segments is spelled otherwise
    have hnone : parse path = [] := by
      by_contra hne
      obtain ⟨hempty, hdot⟩ := ne_of_parse_ne_nil hne
      exact h.elim hempty hdot
    rw [hnone]
    rfl
  · rw [hroot]
    rfl

/-- From anything else nothing is found but the value itself. -/
theorem find_of_not_container (hroot : root.isContainer = false) (path : String) :
    s.find root path = .ok (if path = "" ∨ path = "." then [root] else []) := by
  rw [find, hroot]
  split <;> rfl

/-- A path with a mark in front names the value itself only if it is a single dot. -/
theorem marked_ne (mark : Char) {path : String} (h : mark ≠ '.' ∨ path ≠ "") :
    ¬(String.singleton mark ++ path = "" ∨ String.singleton mark ++ path = ".") := by
  have hmarked : (String.singleton mark ++ path).toList = mark :: path.toList := by
    rw [String.toList_append, String.toList_singleton, List.singleton_append]
  rintro (hempty | hsame)
  · rw [hempty] at hmarked
    cases hmarked
  · rw [hsame] at hmarked
    obtain ⟨hmark, hrest⟩ := List.cons.inj hmarked
    exact h.elim (fun hne => hne hmark.symm)
      (fun hne => hne (String.toList_eq_nil_iff.mp hrest.symm))

/-- A dollar sign in front of a path changes neither its results nor its errors, except in front of
the empty path and the single dot where the root is no container: they find it, and `$` and `$.`
find nothing.  A dot in front of a path that is not empty, and begins with neither a dot nor a
dollar sign, changes nothing, whatever the root. -/
theorem find_rootMarker (s : Store) (root : Value) (path : String) :
    (s.find root ("$" ++ path) = s.find root path ↔
      root.isContainer = true ∨ (path ≠ "" ∧ path ≠ ".")) ∧
    (path ≠ "" → path.toList.head? ≠ some '.' → path.toList.head? ≠ some '$' →
      s.find root ("." ++ path) = s.find root path) := by
  have hdollar : ¬("$" ++ path = "" ∨ "$" ++ path = ".") := marked_ne '$' (.inl (by decide))
  cases hroot : root.isContainer with
  | true =>
    simp only [find_of_container hroot, parse_dollar, true_or, true_and]
    intro _ hnodot hnodollar
    rw [parse_dot hnodot hnodollar]
  | false =>
    simp only [find_of_not_container hroot, if_neg hdollar, Bool.false_eq_true, false_or]
    constructor
    · by_cases hself : path = "" ∨ path = "."
      · rw [if_pos hself]
        simp only [Except.ok.injEq, reduceCtorEq, false_iff, not_and_or, ne_eq, not_not]
        exact hself
      · rw [if_neg hself]
        simpa [not_or] using hself
    · intro hne hnodot _
      have hdot : ¬("." ++ path = "" ∨ "." ++ path = ".") := marked_ne '.' (.inr hne)
      have hself : ¬(path = "" ∨ path = ".") := by
        rintro (rfl | rfl)
        · exact hne rfl
        · exact hnodot rfl
      rw [if_neg hdot, if_neg hself]

/-- A path of marks alone, an index in a bracket, and a bare one that is out of range. -/
theorem find_rootMarker_array :
    let s : Store := ⟨#[.array [.integer 7]]⟩
    (s.find (.container ⟨0⟩) "$$." = s.find (.container ⟨0⟩) "$." ∧
      s.find (.container ⟨0⟩) "$$." = .ok [.container ⟨0⟩]) ∧
    s.find (.container ⟨0⟩) "$[0]" = s.find (.container ⟨0⟩) "[0]" ∧
    s.find (.container ⟨0⟩) ".5" = s.find (.container ⟨0⟩) "5" ∧
    s.find (.container ⟨0⟩) ".5" = .error (.indexOutOfRange 5 1) := by
  intro s
  refine ⟨⟨?_, by decide +kernel⟩, ?_, ?_, by decide +kernel⟩
  · exact (find_rootMarker s (.container ⟨0⟩) "$.").1.mpr (.inl rfl)
  · exact (find_rootMarker s (.container ⟨0⟩) "[0]").1.mpr (.inl rfl)
  · exact (find_rootMarker s (.container ⟨0⟩) "5").2 (by decide) (by decide) (by decide)

/-- The empty path finds a number, and a dollar sign alone does not. -/
theorem find_dollar_ne_of_number :
    (Store.mk #[]).find (.integer 5) ("$" ++ "") ≠ (Store.mk #[]).find (.integer 5) "" := by
  decide +kernel

end DocQuery.Store
