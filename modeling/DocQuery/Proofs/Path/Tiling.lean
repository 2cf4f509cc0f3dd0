import Mathlib
import DocQuery.Proofs.Path.Bracket

/-!
# Splitting Keeps Every Name

The fragments of a path are pieces of it, in order and next to each other except for single
characters that are left out between them.  A character is left out only where nothing starts that
could be a fragment: no name, no name in quotes, no search marker and no bracket.  So whatever is
left out, every character of a name stands in a fragment, and in one only.

## Main definitions

- `StartsEnclosed`: a text between two marks stands at the front
- `StartsNone`: nothing that could be a fragment stands at the front
- `Tiles`: fragments that cover a text up to such characters

## Main statements

- `tiles_splitFrom`: the fragments of a text cover it
- `split_keeps_names`: no character of a name is lost
-/

namespace DocQuery.Path

open DocQuery.Text

variable {c : Char} {cs : List Char} {fragments : List (List Char)}
  {scans : List (List Char → Nat)}

/-! ## What may be left out -/

/-- A text that is not empty stands at the front of `cs`, between `first` and the next `last`. -/
def StartsEnclosed (first last : Char) (cs : List Char) : Prop :=
  ∃ body rest, body ≠ [] ∧ last ∉ body ∧ cs = first :: (body ++ last :: rest)

/-- What stands at the front of `c :: cs` starts no name, no name in quotes, no search and no
bracket. -/
structure StartsNone (c : Char) (cs : List Char) : Prop where
  name : isNameChar c = false
  quoted : ¬StartsEnclosed '"' '"' (c :: cs)
  search : ¬['.', '.'] <+: c :: cs
  bracket : ¬StartsEnclosed '[' ']' (c :: cs)

/-- The fragments stand in a text one behind the other, and only single characters are left out
where nothing starts. -/
inductive Tiles : List Char → List (List Char) → Prop where
  | nil : Tiles [] []
  /-- A character between two fragments -/
  | leftOut {c : Char} {cs : List Char} {fragments : List (List Char)} (none : StartsNone c cs)
      (behind : Tiles cs fragments) : Tiles (c :: cs) fragments
  /-- A fragment, and the text behind it -/
  | fragment {fragment cs : List Char} {fragments : List (List Char)} (ne_nil : fragment ≠ [])
      (behind : Tiles cs fragments) : Tiles (fragment ++ cs) (fragment :: fragments)

/-- The fragments hold all characters of names, in their order. -/
theorem Tiles.filter_flatten (h : Tiles cs fragments) :
    fragments.flatten.filter isNameChar = cs.filter isNameChar := by
  induction h with
  | nil => rfl
  | leftOut none _ ih => rw [List.filter_cons_of_neg (by simp [none.name]), ih]
  | fragment _ _ ih => rw [List.flatten_cons, List.filter_append, List.filter_append, ih]

/-! ## Where scanners take nothing -/

theorem scanName_eq_zero_of_scanNames (h : scanNames cs = 0) : scanName cs = 0 := by
  unfold scanNames at h
  dsimp only at h
  split at h
  · assumption
  · omega

theorem scanName_ne_zero_of_startsEnclosed (h : StartsEnclosed '"' '"' cs) : scanName cs ≠ 0 := by
  obtain ⟨body, rest, hne, hclose, rfl⟩ := h
  have hbody : (body ++ '"' :: rest).takeWhile (· != '"') = body := by
    refine takeWhile_append_of_ends (fun d hd => ?_) (ends_cons (by decide) rest)
    exact bne_iff_ne.mpr fun he => hclose (he ▸ hd)
  simp [scanName, nameLength, hbody, hne]

theorem scanName_ne_zero_of_isNameChar (h : isNameChar c = true) (cs : List Char) :
    scanName (c :: cs) ≠ 0 := by
  have hquote : c ≠ '"' := ne_of_holds h isNameChar_quote
  rw [scanName, nameLength_of_ne_quote hquote, List.takeWhile_cons_of_pos h, List.length_cons]
  exact Nat.succ_ne_zero _

theorem scanDescendant_ne_zero_of_dots (h : ['.', '.'] <+: cs) : scanDescendant cs ≠ 0 := by
  obtain ⟨rest, rfl⟩ := h
  have htwo : 2 ≤ ((['.', '.'] ++ rest).takeWhile (· == '.')).length := by simp
  unfold scanDescendant
  dsimp only
  rw [if_neg (Nat.not_lt.mpr htwo)]
  omega

theorem scanBracket_ne_zero_of_startsEnclosed (h : StartsEnclosed '[' ']' cs) :
    scanBracket cs ≠ 0 := by
  obtain ⟨body, rest, hne, hclose, rfl⟩ := h
  have htext : '[' :: (body ++ ']' :: rest) = bracket body ++ rest := by simp [bracket]
  rw [htext, scanBracket_bracket hne hclose]
  simp [bracket]

/-- Where no scanner takes anything, nothing starts. -/
theorem startsNone_of_scans (h : ∀ scan ∈ scanners, scan (c :: cs) = 0) : StartsNone c cs := by
  have hname : scanName (c :: cs) = 0 :=
    scanName_eq_zero_of_scanNames (h scanNames (by simp [scanners]))
  constructor
  · exact Bool.eq_false_iff.mpr fun hc => scanName_ne_zero_of_isNameChar hc cs hname
  · exact fun hquoted => scanName_ne_zero_of_startsEnclosed hquoted hname
  · exact fun hdots => scanDescendant_ne_zero_of_dots hdots (h scanDescendant (by simp [scanners]))
  · exact fun hbracket =>
      scanBracket_ne_zero_of_startsEnclosed hbracket (h scanBracket (by simp [scanners]))

/-! ## Groups -/

/-- In a group without fragments no scanner takes anything. -/
theorem scan_eq_zero_of_takeGroup (h : (takeGroup scans cs).1 = []) :
    ∀ scan ∈ scans, scan cs = 0 := by
  induction scans with
  | nil => exact List.forall_mem_nil _
  | cons scan scans ih =>
    simp only [takeGroup] at h
    split at h
    · next hzero => exact List.forall_mem_cons.mpr ⟨hzero, ih h⟩
    · exact absurd h (List.cons_ne_nil _ _)

/-- The fragments of a group stand in front of what it leaves, without a gap. -/
theorem Tiles.takeGroup (hscans : ∀ scan ∈ scans, scan [] = 0)
    (behind : Tiles (takeGroup scans cs).2 fragments) :
    Tiles cs ((takeGroup scans cs).1 ++ fragments) := by
  induction scans generalizing cs with
  | nil => exact behind
  | cons scan scans ih =>
    obtain ⟨hscan, hscans⟩ := List.forall_mem_cons.mp hscans
    simp only [Path.takeGroup] at behind ⊢
    split
    · next hzero =>
      rw [if_pos hzero] at behind
      exact ih hscans behind
    · next hpos =>
      rw [if_neg hpos] at behind
      -- a scanner that takes something has text before it
      have hne : cs.take (scan cs) ≠ [] := by
        rw [Ne, List.take_eq_nil_iff, not_or]
        refine ⟨hpos, ?_⟩
        rintro rfl
        exact hpos hscan
      have htiles := Tiles.fragment hne (ih hscans behind)
      rwa [List.take_append_drop] at htiles

/-- The fragments of a text cover it. -/
theorem tiles_splitFrom (cs : List Char) : Tiles cs (splitFrom cs) := by
  have hscans : ∀ scan ∈ scanners, scan [] = 0 := by
    simp [scanners, scanGlob, scanNames, scanName, nameLength, scanDescendant, scanBracket]
  induction cs using splitFrom.induct with
  | case1 => rw [splitFrom]; exact .nil
  | case2 c cs rest hgroup ih =>
    have hnone : (takeGroup scanners (c :: cs)).1 = [] := by rw [hgroup]
    rw [splitFrom_cons, if_pos hnone]
    exact .leftOut (startsNone_of_scans (scan_eq_zero_of_takeGroup hnone)) ih
  | case3 c cs fragment fragments rest hgroup ih =>
    have hsome : (takeGroup scanners (c :: cs)).1 ≠ [] := by
      rw [hgroup]
      exact List.cons_ne_nil _ _
    rw [splitFrom_cons, if_neg hsome]
    refine Tiles.takeGroup hscans ?_
    rw [hgroup]
    exact ih

/-! ## Paths -/

/-- In front of a path without the marker of the root stand dollar signs and at most one dot. -/
theorem exists_append_stripRoot (cs : List Char) :
    ∃ k mark, (mark = [] ∨ mark = ['.']) ∧ cs = List.replicate k '$' ++ (mark ++ stripRoot cs) := by
  have hdollars : cs.takeWhile (· == '$') = List.replicate (cs.takeWhile (· == '$')).length '$' :=
    List.eq_replicate_of_mem fun c hc => by simpa using List.mem_takeWhile_imp hc
  have hcut :
      List.replicate (cs.takeWhile (· == '$')).length '$' ++ cs.dropWhile (· == '$') = cs := by
    rw [← hdollars, List.takeWhile_append_dropWhile]
  refine ⟨(cs.takeWhile (· == '$')).length, ?_⟩
  unfold stripRoot
  split
  · next heq => exact ⟨[], .inl rfl, by rw [List.nil_append, ← heq, hcut]⟩
  · next heq => exact ⟨['.'], .inr rfl, by rw [List.singleton_append, ← heq, hcut]⟩
  · exact ⟨[], .inl rfl, by rw [List.nil_append, hcut]⟩

/-- The marker of the root has no characters of names. -/
theorem filter_stripRoot (cs : List Char) :
    (stripRoot cs).filter isNameChar = cs.filter isNameChar := by
  obtain ⟨k, mark, hmark, hcs⟩ := exists_append_stripRoot cs
  have hdollar : isNameChar '$' = false := isNameChar_eq_of_lt (by decide)
  have hfront : (List.replicate k '$').filter isNameChar = [] := by
    rw [List.filter_eq_nil_iff]
    intro c hc
    rw [List.eq_of_mem_replicate hc, hdollar]
    exact Bool.false_ne_true
  have hdot : mark.filter isNameChar = [] := by
    rcases hmark with rfl | rfl
    · rfl
    · exact List.filter_cons_of_neg (by rw [isNameChar_dot]; exact Bool.false_ne_true)
  conv_rhs => rw [hcs, List.filter_append, List.filter_append, hfront, hdot]
  rfl

/-- The fragments of a path are pieces of what stands behind the marker of its root, in order and
without overlap, and nothing that could start a fragment is left out between them.  So every
character of a name stands in one of the fragments, and they stand there as often and in the same
order as in the path. -/
theorem split_keeps_names (path : String) :
    (∃ k mark, (mark = [] ∨ mark = ['.']) ∧
      path.toList = List.replicate k '$' ++ (mark ++ stripRoot path.toList)) ∧
    Tiles (stripRoot path.toList) ((split path).map String.toList) ∧
    ((split path).map String.toList).flatten.filter isNameChar = path.toList.filter isNameChar := by
  have hfragments : (split path).map String.toList = splitFrom (stripRoot path.toList) := by
    simp [split, Function.comp_def]
  have htiles := tiles_splitFrom (stripRoot path.toList)
  rw [hfragments]
  exact ⟨exists_append_stripRoot path.toList, htiles,
    htiles.filter_flatten.trans (filter_stripRoot path.toList)⟩

end DocQuery.Path
