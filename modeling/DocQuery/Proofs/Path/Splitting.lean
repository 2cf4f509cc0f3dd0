import Mathlib
import DocQuery.Path.Fragment
import DocQuery.Text.Classes

/-!
# Splitting Without Groups

A path is split in groups of up to four fragments.  The groups do not show in the result:
behind each fragment splitting goes on as it would at the start of a text, because a scanner
that comes earlier in the group has nothing to take where a later one has.

## Main statements

- `splitFrom_of_glob`, `splitFrom_of_names`, `splitFrom_of_descendant`, `splitFrom_of_bracket`:
  a scanner takes its fragment, and splitting goes on behind it
- `splitFrom_of_none`: where no scanner takes anything one character is left out
-/

namespace DocQuery.Path

open DocQuery.Text

/-! ## Scanners and first characters -/

theorem drop_length_takeWhile (p : Char → Bool) (cs : List Char) :
    cs.drop (cs.takeWhile p).length = cs.dropWhile p := by
  calc cs.drop (cs.takeWhile p).length
      = (cs.takeWhile p ++ cs.dropWhile p).drop (cs.takeWhile p).length := by
        rw [List.takeWhile_append_dropWhile]
    _ = cs.dropWhile p := List.drop_left

/-- A run is what is taken when as many characters are taken as it is long. -/
theorem take_length_takeWhile (p : Char → Bool) (cs : List Char) :
    cs.take (cs.takeWhile p).length = cs.takeWhile p :=
  (List.prefix_iff_eq_take.mp (List.takeWhile_prefix p)).symm

/-- A glob takes nothing at a character that ends it. -/
theorem scanGlob_of_stop {c : Char} (h : isGlobStop c = true) (cs : List Char) :
    scanGlob (c :: cs) = 0 := by
  unfold scanGlob
  simp only [h, Bool.not_true, Bool.false_eq_true, not_false_eq_true, List.takeWhile_cons_of_neg,
    List.length_nil, ite_self]

theorem nameLength_of_ne_quote {isPart : Char → Bool} {c : Char} (h : c ≠ '"') (cs : List Char) :
    nameLength isPart (c :: cs) = ((c :: cs).takeWhile isPart).length := by
  unfold nameLength
  split
  · next heq => exact absurd (List.cons.inj heq).1 h
  · rfl

/-- No name starts at a character that is neither a quote nor a character of names. -/
theorem scanNames_of_not_name {c : Char} (hquote : c ≠ '"') (h : isNameChar c = false)
    (cs : List Char) : scanNames (c :: cs) = 0 := by
  have hname : scanName (c :: cs) = 0 := by
    rw [scanName, nameLength_of_ne_quote hquote]
    simp [h]
  simp only [scanNames, hname, if_true]

/-- A search marker starts with a dot. -/
theorem scanDescendant_of_ne_dot {c : Char} (h : c ≠ '.') (cs : List Char) :
    scanDescendant (c :: cs) = 0 := by
  simp [scanDescendant, h]

/-- A bracket starts with its opening mark. -/
theorem scanBracket_of_ne {c : Char} (h : c ≠ '[') (cs : List Char) :
    scanBracket (c :: cs) = 0 := by
  unfold scanBracket
  split
  · next heq => exact absurd (List.cons.inj heq).1 h
  · rfl

theorem isNameChar_dot : isNameChar '.' = false := isNameChar_eq_of_lt (by decide)

theorem isNameChar_openBracket : isNameChar '[' = false := isNameChar_eq_of_lt (by decide)

theorem isNameChar_quote : isNameChar '"' = false := isNameChar_eq_of_lt (by decide)

theorem isWord_dot : isWord '.' = false := isWord_eq_of_lt (by decide)

theorem isWord_quote : isWord '"' = false := isWord_eq_of_lt (by decide)

/-- Where a search marker starts, neither a glob nor a name does. -/
theorem scans_of_scanDescendant {cs : List Char} (h : scanDescendant cs ≠ 0) :
    scanGlob cs = 0 ∧ scanNames cs = 0 := by
  cases cs with
  | nil => exact absurd rfl h
  | cons c cs =>
    have hc : c = '.' := by
      by_contra hne
      exact h (scanDescendant_of_ne_dot hne cs)
    subst hc
    exact ⟨scanGlob_of_stop (by decide) cs,
      scanNames_of_not_name (by decide) isNameChar_dot cs⟩

/-- Where a bracket starts, no other fragment does. -/
theorem scans_of_scanBracket {cs : List Char} (h : scanBracket cs ≠ 0) :
    scanGlob cs = 0 ∧ scanNames cs = 0 ∧ scanDescendant cs = 0 := by
  cases cs with
  | nil => exact absurd rfl h
  | cons c cs =>
    have hc : c = '[' := by
      by_contra hne
      exact h (scanBracket_of_ne hne cs)
    subst hc
    exact ⟨scanGlob_of_stop (by decide) cs,
      scanNames_of_not_name (by decide) isNameChar_openBracket cs,
      scanDescendant_of_ne_dot (by decide) cs⟩

/-! ## Groups -/

/-- The fragments that the remaining scanners of a group take, and all fragments behind them. -/
def splitWith (scans : List (List Char → Nat)) (cs : List Char) : List (List Char) :=
  (takeGroup scans cs).1 ++ splitFrom (takeGroup scans cs).2

theorem splitWith_nil (cs : List Char) : splitWith [] cs = splitFrom cs := rfl

theorem splitWith_cons_of_zero {scan : List Char → Nat} {cs : List Char} (h : scan cs = 0)
    (scans : List (List Char → Nat)) : splitWith (scan :: scans) cs = splitWith scans cs := by
  simp only [splitWith, takeGroup, h, if_true]

theorem splitWith_cons_of_ne_zero {scan : List Char → Nat} {cs : List Char} (h : scan cs ≠ 0)
    (scans : List (List Char → Nat)) :
    splitWith (scan :: scans) cs = cs.take (scan cs) :: splitWith scans (cs.drop (scan cs)) := by
  simp only [splitWith, takeGroup, if_neg h, List.cons_append]

/-- A group without fragments leaves the text as it was. -/
theorem takeGroup_of_fst_eq_nil {scans : List (List Char → Nat)} {cs : List Char}
    (h : (takeGroup scans cs).1 = []) : (takeGroup scans cs).2 = cs := by
  -- on the scanners: each of them has taken nothing
  induction scans with
  | nil => rfl
  | cons scan scans ih =>
    simp only [takeGroup] at h ⊢
    split
    · next hzero => rw [if_pos hzero] at h; exact ih h
    · next hzero => rw [if_neg hzero] at h; exact absurd h (List.cons_ne_nil _ _)

/-- Splitting starts a group, or leaves out a character where the group is empty. -/
theorem splitFrom_cons (c : Char) (cs : List Char) :
    splitFrom (c :: cs) =
      if (takeGroup scanners (c :: cs)).1 = [] then splitFrom cs
      else splitWith scanners (c :: cs) := by
  rw [splitFrom]
  split
  · next heq => rw [if_pos (by rw [heq])]
  · next heq =>
    rw [if_neg (by rw [heq]; exact List.cons_ne_nil _ _), splitWith, heq]

theorem splitFrom_eq_splitWith (cs : List Char) : splitFrom cs = splitWith scanners cs := by
  cases cs with
  | nil => simp [splitWith, takeGroup, scanners, splitFrom, scanGlob, scanNames, scanName,
      nameLength, scanDescendant, scanBracket]
  | cons c cs =>
    by_cases h : (takeGroup scanners (c :: cs)).1 = []
    · rw [splitWith, h, takeGroup_of_fst_eq_nil h, List.nil_append]
    · rw [splitFrom_cons, if_neg h]

/-- The last scanner of a group takes what splitting takes anyway. -/
theorem splitWith_bracket (cs : List Char) : splitWith [scanBracket] cs = splitFrom cs := by
  by_cases h : scanBracket cs = 0
  · rw [splitWith_cons_of_zero h, splitWith_nil]
  · -- the scanners in front have nothing to take at a bracket, so a new group starts with it
    obtain ⟨hglob, hnames, hdescendant⟩ := scans_of_scanBracket h
    rw [splitFrom_eq_splitWith, scanners, splitWith_cons_of_zero hglob,
      splitWith_cons_of_zero hnames, splitWith_cons_of_zero hdescendant]

/-- So do the last two. -/
theorem splitWith_descendant (cs : List Char) :
    splitWith [scanDescendant, scanBracket] cs = splitFrom cs := by
  by_cases h : scanDescendant cs = 0
  · rw [splitWith_cons_of_zero h, splitWith_bracket]
  · obtain ⟨hglob, hnames⟩ := scans_of_scanDescendant h
    rw [splitFrom_eq_splitWith, scanners, splitWith_cons_of_zero hglob,
      splitWith_cons_of_zero hnames]

/-- The last three do where no glob starts. -/
theorem splitWith_names {cs : List Char} (h : scanGlob cs = 0) :
    splitWith [scanNames, scanDescendant, scanBracket] cs = splitFrom cs := by
  rw [splitFrom_eq_splitWith cs, scanners, splitWith_cons_of_zero h]

/-- A group puts nothing in and leaves nothing out. -/
theorem flatten_takeGroup (scans : List (List Char → Nat)) (cs : List Char) :
    (takeGroup scans cs).1.flatten ++ (takeGroup scans cs).2 = cs := by
  induction scans generalizing cs with
  | nil => rfl
  | cons scan scans ih =>
    simp only [takeGroup]
    split
    · exact ih cs
    · rw [List.flatten_cons, List.append_assoc, ih, List.take_append_drop]

/-- The fragments of a text, one behind the other, are the text without what was left out. -/
theorem flatten_splitFrom_sublist (cs : List Char) : (splitFrom cs).flatten.Sublist cs := by
  induction cs using splitFrom.induct with
  | case1 => rw [splitFrom, List.flatten_nil]
  | case2 c cs rest hgroup ih =>
    rw [splitFrom_cons, if_pos (by rw [hgroup])]
    exact ih.cons c
  | case3 c cs fragment fragments rest hgroup ih =>
    have hall := flatten_takeGroup scanners (c :: cs)
    rw [splitFrom_cons, if_neg (by rw [hgroup]; exact List.cons_ne_nil _ _), splitWith,
      List.flatten_append]
    rw [hgroup] at hall ⊢
    have hparts := (List.Sublist.refl (fragment :: fragments).flatten).append ih
    rwa [hall] at hparts

/-- A glob that starts goes up to the next character that ends it. -/
theorem scanGlob_eq_length {cs : List Char} (h : scanGlob cs ≠ 0) :
    scanGlob cs = (cs.takeWhile (!isGlobStop ·)).length := by
  simp only [scanGlob] at h ⊢
  split at h
  · next hline => rw [if_pos hline]
  · exact absurd rfl h

/-- Behind a glob no other one starts. -/
theorem scanGlob_drop_scanGlob {cs : List Char} (h : scanGlob cs ≠ 0) :
    scanGlob (cs.drop (scanGlob cs)) = 0 := by
  -- what is left is empty or starts with a mark that ends globs
  rw [scanGlob_eq_length h, drop_length_takeWhile]
  cases hrest : cs.dropWhile (!isGlobStop ·) with
  | nil => rfl
  | cons c rest =>
    have hstop := List.head_dropWhile_not (!isGlobStop ·) (by simp [hrest] :
      cs.dropWhile (!isGlobStop ·) ≠ [])
    simp only [hrest, List.head_cons, Bool.not_eq_eq_eq_not, Bool.not_false] at hstop
    exact scanGlob_of_stop hstop rest

/-! ## One fragment at a time -/

variable {cs : List Char}

theorem splitFrom_of_glob (h : scanGlob cs ≠ 0) :
    splitFrom cs = cs.take (scanGlob cs) :: splitFrom (cs.drop (scanGlob cs)) := by
  rw [splitFrom_eq_splitWith cs, scanners, splitWith_cons_of_ne_zero h,
    splitWith_names (scanGlob_drop_scanGlob h)]

theorem splitFrom_of_names (hglob : scanGlob cs = 0) (h : scanNames cs ≠ 0) :
    splitFrom cs = cs.take (scanNames cs) :: splitFrom (cs.drop (scanNames cs)) := by
  rw [splitFrom_eq_splitWith cs, scanners, splitWith_cons_of_zero hglob,
    splitWith_cons_of_ne_zero h, splitWith_descendant]

theorem splitFrom_of_descendant (h : scanDescendant cs ≠ 0) :
    splitFrom cs = cs.take (scanDescendant cs) :: splitFrom (cs.drop (scanDescendant cs)) := by
  rw [← splitWith_descendant cs, splitWith_cons_of_ne_zero h, splitWith_bracket]

theorem splitFrom_of_bracket (h : scanBracket cs ≠ 0) :
    splitFrom cs = cs.take (scanBracket cs) :: splitFrom (cs.drop (scanBracket cs)) := by
  rw [← splitWith_bracket cs, splitWith_cons_of_ne_zero h, splitWith_nil]

/-- Where no scanner takes anything one character is left out. -/
theorem splitFrom_of_none {c : Char} (hglob : scanGlob (c :: cs) = 0)
    (hnames : scanNames (c :: cs) = 0) (hdescendant : scanDescendant (c :: cs) = 0)
    (hbracket : scanBracket (c :: cs) = 0) : splitFrom (c :: cs) = splitFrom cs := by
  rw [splitFrom_cons, if_pos]
  simp only [scanners, takeGroup, hglob, hnames, hdescendant, hbracket, if_true]

end DocQuery.Path
