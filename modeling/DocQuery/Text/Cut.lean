import DocQuery.Text.Classes

/-!
# Cutting Text

Splitting a text at separators and trimming its ends.
-/

namespace DocQuery.Text

/-- The parts of `cs` between the separators; `n` separators make `n + 1` parts. -/
def splitAt (separator : Char) : List Char → List (List Char)
  | [] => [[]]
  | c :: cs =>
    if c = separator then [] :: splitAt separator cs
    else match splitAt separator cs with
      | [] => [[c]]
      | part :: parts => (c :: part) :: parts

/-- What stands before and behind the first separator, if there is one. -/
def cutFirst? (separator : Char) (cs : List Char) : Option (List Char × List Char) :=
  match cs.dropWhile (· != separator) with
  | _ :: after => some (cs.takeWhile (· != separator), after)
  | [] => none

/-- What stands before and behind the last separator, if there is one. -/
def cutLast? (separator : Char) (cs : List Char) : Option (List Char × List Char) :=
  (cutFirst? separator cs.reverse).map fun (after, before) => (before.reverse, after.reverse)

/-- `cs` without the characters at its end that satisfy `p`. -/
def dropEndWhile (p : Char → Bool) (cs : List Char) : List Char :=
  (cs.reverse.dropWhile p).reverse

/-- `cs` without white space at its ends. -/
def trim (cs : List Char) : List Char := dropEndWhile isSpace (cs.dropWhile isSpace)

/-- `cs` without `first` at its start and `last` at its end, if it has both. -/
def stripEnds? (first last : Char) : List Char → Option (List Char)
  | [] => none
  | c :: cs =>
    if c = first ∧ cs.getLast? = some last then some cs.dropLast else none

/-- The texts of `parts` with `separator` between them. -/
def join (separator : List Char) : List (List Char) → List Char
  | [] => []
  | [part] => part
  | part :: parts => part ++ separator ++ join separator parts

theorem join_cons_cons (separator part next : List Char) (parts : List (List Char)) :
    join separator (part :: next :: parts) =
      part ++ separator ++ join separator (next :: parts) := rfl

/-- Each part but the first stands behind a separator. -/
theorem join_cons (separator part : List Char) (parts : List (List Char)) :
    join separator (part :: parts) = part ++ parts.flatMap (separator ++ ·) := by
  induction parts generalizing part with
  | nil => exact (List.append_nil part).symm
  | cons next parts ih => rw [join_cons_cons, ih, List.flatMap_cons]; simp

/-- A text without the separator is not cut. -/
theorem cutFirst?_eq_none {separator : Char} {cs : List Char} (h : separator ∉ cs) :
    cutFirst? separator cs = none := by
  have hall : cs.dropWhile (· != separator) = [] := by
    induction cs with
    | nil => rfl
    | cons c cs ih =>
      have hc : (c != separator) = true := bne_iff_ne.mpr fun e => h (e ▸ List.mem_cons_self)
      rw [List.dropWhile_cons, if_pos hc]
      exact ih fun hm => h (List.mem_cons_of_mem c hm)
  simp [cutFirst?, hall]

/-- A text is cut at the separator that comes first. -/
theorem cutFirst?_append {separator : Char} {before : List Char} (h : separator ∉ before)
    (after : List Char) :
    cutFirst? separator (before ++ separator :: after) = some (before, after) := by
  have hpos : ∀ c ∈ before, (c != separator) = true := fun c hc =>
    bne_iff_ne.mpr fun e => h (e ▸ hc)
  rw [cutFirst?, List.dropWhile_append_of_pos hpos, List.takeWhile_append_of_pos hpos]
  simp

/-- A text that is cut is made of its two parts with the separator between them. -/
theorem eq_append_of_cutFirst? {separator : Char} {cs before after : List Char}
    (h : cutFirst? separator cs = some (before, after)) : cs = before ++ separator :: after := by
  have hsplit := List.takeWhile_append_dropWhile (p := (· != separator)) (l := cs)
  have hhead := List.head?_dropWhile_not (· != separator) cs
  unfold cutFirst? at h
  split at h
  · next c rest hdrop =>
    obtain ⟨rfl, rfl⟩ := Prod.mk.inj (Option.some.inj h)
    have hc : c = separator := by simpa [hdrop] using hhead
    rw [hdrop, hc] at hsplit
    exact hsplit.symm
  · cases h

/-- A text is cut at the separator that comes last. -/
theorem cutLast?_append {separator : Char} (before : List Char) {after : List Char}
    (h : separator ∉ after) :
    cutLast? separator (before ++ separator :: after) = some (before, after) := by
  have hreverse : (before ++ separator :: after).reverse =
      after.reverse ++ separator :: before.reverse := by simp
  rw [cutLast?, hreverse, cutFirst?_append fun hm => h (List.mem_reverse.mp hm)]
  simp

theorem eq_append_of_cutLast? {separator : Char} {cs before after : List Char}
    (h : cutLast? separator cs = some (before, after)) : cs = before ++ separator :: after := by
  obtain ⟨⟨front, back⟩, hcut, hparts⟩ := Option.map_eq_some_iff.mp h
  obtain ⟨rfl, rfl⟩ := Prod.mk.inj hparts
  rw [← List.reverse_reverse cs, eq_append_of_cutFirst? hcut]
  simp

/-- A text without the separator is not cut at its last occurrence either. -/
theorem cutLast?_eq_none {separator : Char} {cs : List Char} (h : separator ∉ cs) :
    cutLast? separator cs = none := by
  simp [cutLast?, cutFirst?_eq_none fun hm => h (List.mem_reverse.mp hm)]

theorem splitAt_ne_nil (separator : Char) (cs : List Char) : splitAt separator cs ≠ [] := by
  induction cs with
  | nil => simp [splitAt]
  | cons c cs ih =>
    simp only [splitAt]
    split
    · simp
    · split <;> simp

/-- Joining the parts again gives the text back. -/
theorem join_splitAt (separator : Char) (cs : List Char) :
    join [separator] (splitAt separator cs) = cs := by
  induction cs with
  | nil => rfl
  | cons c cs ih =>
    simp only [splitAt]
    cases h : splitAt separator cs with
    | nil => exact absurd h (splitAt_ne_nil separator cs)
    | cons part parts =>
      rw [h] at ih
      split
      · next hc => subst hc; simp [join, ih]
      · cases parts <;> simp_all [join]

theorem splitAt_of_notMem {separator : Char} {part : List Char} (h : separator ∉ part) :
    splitAt separator part = [part] := by
  induction part with
  | nil => rfl
  | cons c part ih =>
    have hc : c ≠ separator := fun e => h (e ▸ List.mem_cons_self)
    rw [splitAt, if_neg hc, ih fun hm => h (List.mem_cons_of_mem c hm)]

/-- Behind the first separator the text is cut on its own. -/
theorem splitAt_append {separator : Char} {part : List Char} (h : separator ∉ part)
    (rest : List Char) :
    splitAt separator (part ++ separator :: rest) = part :: splitAt separator rest := by
  induction part with
  | nil => simp [splitAt]
  | cons c part ih =>
    have hc : c ≠ separator := fun e => h (e ▸ List.mem_cons_self)
    rw [List.cons_append, splitAt, if_neg hc, ih fun hm => h (List.mem_cons_of_mem c hm)]

/-- Cutting what was joined gives the parts back. -/
theorem splitAt_join {separator : Char} {parts : List (List Char)} (hne : parts ≠ [])
    (h : ∀ part ∈ parts, separator ∉ part) :
    splitAt separator (join [separator] parts) = parts := by
  induction parts with
  | nil => exact absurd rfl hne
  | cons part parts ih =>
    have hpart : separator ∉ part := h part List.mem_cons_self
    cases parts with
    | nil => exact splitAt_of_notMem hpart
    | cons next parts =>
      have hrest := ih (List.cons_ne_nil next parts) fun p hp => h p (List.mem_cons_of_mem part hp)
      rw [join_cons_cons, List.append_assoc, List.singleton_append, splitAt_append hpart, hrest]

/-- A text that starts and ends with other characters has no white space at its ends. -/
theorem trim_eq_self {first last : Char} {middle : List Char} (hfirst : isSpace first = false)
    (hlast : isSpace last = false) :
    trim (first :: (middle ++ [last])) = first :: (middle ++ [last]) := by
  have hdrop : (first :: (middle ++ [last])).dropWhile isSpace = first :: (middle ++ [last]) := by
    rw [List.dropWhile_cons_of_neg (by simp [hfirst])]
  rw [trim, hdrop, dropEndWhile, ← List.cons_append, List.reverse_append, List.reverse_singleton,
    List.singleton_append, List.dropWhile_cons_of_neg (by simp [hlast])]
  simp

/-- A text between two marks is freed from them. -/
theorem stripEnds?_concat (first last : Char) (middle : List Char) :
    stripEnds? first last (first :: (middle ++ [last])) = some middle := by
  simp [stripEnds?]

/-- A text that is freed from two marks stood between them. -/
theorem eq_of_stripEnds? {first last : Char} {cs middle : List Char}
    (h : stripEnds? first last cs = some middle) : cs = first :: (middle ++ [last]) := by
  cases cs with
  | nil => cases h
  | cons c cs =>
    rw [stripEnds?, Option.ite_none_right_eq_some] at h
    obtain ⟨⟨rfl, hlast⟩, hmiddle⟩ := h
    obtain ⟨front, rfl⟩ := List.getLast?_eq_some_iff.mp hlast
    rw [List.dropLast_concat] at hmiddle
    rw [Option.some.inj hmiddle]

theorem stripEnds?_of_ne {first c : Char} (h : c ≠ first) (last : Char) (cs : List Char) :
    stripEnds? first last (c :: cs) = none := by
  simp [stripEnds?, h]

end DocQuery.Text
