import Mathlib
import DocQuery.Proofs.Path.Dotted
import DocQuery.Proofs.Path.NameRow

/-!
# Paths of Names

A path without stars and opening brackets is cut into rows of names and searches, whatever else
stands in it.  Each of these fragments is understood if and only if the characters of its bare names
are word characters.  A superscript two may stand in a name for the scanners and is no word
character for the rules: a path that has one outside of quotes is not understood.

## Main definitions

- `NameFragment`: the fragments of a path of names
- `Agreed`: the bare names of a fragment are names to the rules, too

## Main statements

- `nameFragment_of_mem_splitFrom`: what a path of names is cut into
- `compile_names`: when a path of names is understood, and what the error is otherwise
- `compile_superscript`: a path of names that is not understood
-/

namespace DocQuery.Path

open DocQuery.Text

variable {cs fragment : List Char} {n : WrittenName} {names : List WrittenName}

/-- The fragments of a path of names, as the scanners see them. -/
inductive NameFragment : List Char → Prop where
  | names {n : WrittenName} {names : List WrittenName} (hn : n.Fits isNameChar)
      (h : ∀ m ∈ names, m.Fits isNameChar) : NameFragment (n.text ++ dotted names)
  /-- A search for everything -/
  | dots {k : Nat} (hk : k = 2 ∨ k = 3) : NameFragment (List.replicate k '.')
  /-- A search for names -/
  | search {k : Nat} (hk : k = 2 ∨ k = 3) {n : WrittenName} {names : List WrittenName}
      (hn : n.Fits isNameChar) (h : ∀ m ∈ names, m.Fits isNameChar) :
      NameFragment (List.replicate k '.' ++ (n.text ++ dotted names))

/-- The characters outside of quotes that may stand in a bare name are word characters. -/
def Agreed (fragment : List Char) : Prop :=
  ∀ c ∈ outsideQuotes fragment, isNameChar c = true → isWord c = true

/-- Scanners and rules agree on the names of ASCII. -/
theorem agreed_of_ascii (h : (outsideQuotes fragment).all (·.toNat < 128) = true) :
    Agreed fragment := by
  intro c hc hname
  have hlt : c.toNat < 128 := by simpa using List.all_eq_true.mp h c hc
  rwa [isNameChar_eq_of_lt hlt, ← isWord_eq_of_lt hlt] at hname

/-! ## Cutting -/

/-- What the scanner of searches cuts out is a search. -/
theorem nameFragment_of_scanDescendant (h : scanDescendant cs ≠ 0) :
    NameFragment (cs.take (scanDescendant cs)) := by
  have hrun := take_length_takeWhile (· == '.') cs
  have hdots : cs.takeWhile (· == '.') =
      List.replicate (cs.takeWhile (· == '.')).length '.' :=
    List.eq_replicate_of_mem fun c hc => by simpa using List.mem_takeWhile_imp hc
  unfold scanDescendant at h ⊢
  generalize (cs.takeWhile (· == '.')).length = count at h hrun hdots ⊢
  rw [hdots] at hrun
  by_cases hcount : count < 2
  · simp [hcount] at h
  · simp only [hcount, if_false]
    have hk : min count 3 = 2 ∨ min count 3 = 3 := by omega
    have hfront : cs.take (min count 3) = List.replicate (min count 3) '.' := by
      rw [Nat.min_comm, ← List.take_take, hrun, List.take_replicate]
    rw [List.take_add, hfront]
    by_cases hnames : scanNames (cs.drop (min count 3)) = 0
    · rw [hnames, List.take_zero, List.append_nil]
      exact .dots hk
    · obtain ⟨n, names, hn, hall, htext⟩ := exists_names_of_scanNames hnames
      rw [htext]
      exact .search hk hn hall

/-- Without the marker of the root a path has no other characters than with it. -/
theorem mem_of_mem_stripRoot {c : Char} (h : c ∈ stripRoot cs) : c ∈ cs := by
  have hdrop : ∀ rest, cs.dropWhile (· == '$') = rest → c ∈ rest → c ∈ cs := fun rest heq hc =>
    (List.dropWhile_sublist _).subset (heq ▸ hc)
  unfold stripRoot at h
  split at h
  · next heq => exact hdrop _ heq h
  · next heq => exact hdrop _ heq (List.mem_cons_of_mem _ h)
  · next heq => exact hdrop _ rfl h

/-- A text without stars and opening brackets is cut into names and searches; its fragments have
no stars and no opening brackets either. -/
theorem nameFragment_of_mem_splitFrom (hstar : '*' ∉ cs) (hbracket : '[' ∉ cs) :
    ∀ fragment ∈ splitFrom cs,
      NameFragment fragment ∧ '*' ∉ fragment ∧ '[' ∉ fragment := by
  -- on the length of the text; what is behind a fragment has no stars and brackets either
  induction hlength : cs.length using Nat.strong_induction_on generalizing cs with
  | _ length ih =>
    have hcut : ∀ k, k ≠ 0 → cs ≠ [] → NameFragment (cs.take k) → ∀ fragment ∈
        cs.take k :: splitFrom (cs.drop k),
        NameFragment fragment ∧ '*' ∉ fragment ∧ '[' ∉ fragment := by
      intro k hk hne hfirst
      have hshorter : (cs.drop k).length < length := by
        have hpos := List.length_pos_iff.mpr hne
        rw [List.length_drop]
        omega
      rw [List.forall_mem_cons]
      exact ⟨⟨hfirst, fun hmem => hstar (List.mem_of_mem_take hmem),
          fun hmem => hbracket (List.mem_of_mem_take hmem)⟩,
        ih _ hshorter (fun hmem => hstar (List.mem_of_mem_drop hmem))
          (fun hmem => hbracket (List.mem_of_mem_drop hmem)) rfl⟩
    have hglob : scanGlob cs = 0 := scanGlob_of_star_notMem hstar
    cases hcs : cs with
    | nil => simp [splitFrom]
    | cons c rest =>
      have hne : cs ≠ [] := hcs ▸ List.cons_ne_nil c rest
      rw [← hcs]
      by_cases hnames : scanNames cs = 0
      · by_cases hdescendant : scanDescendant cs = 0
        · have hopen : c ≠ '[' := fun heq => hbracket (by rw [hcs, heq]; exact List.mem_cons_self)
          rw [hcs] at hglob hnames hdescendant hstar hbracket hlength ⊢
          rw [splitFrom_of_none hglob hnames hdescendant (scanBracket_of_ne hopen rest)]
          exact ih rest.length (by rw [← hlength]; simp)
            (fun hmem => hstar (List.mem_cons_of_mem c hmem))
            (fun hmem => hbracket (List.mem_cons_of_mem c hmem)) rfl
        · rw [splitFrom_of_descendant hdescendant]
          exact hcut _ hdescendant hne (nameFragment_of_scanDescendant hdescendant)
      · rw [splitFrom_of_names hglob hnames]
        obtain ⟨n, names, hn, hall, htext⟩ := exists_names_of_scanNames hnames
        exact hcut _ hnames hne (by rw [htext]; exact .names hn hall)

/-! ## Classifying -/

/-- A fragment without stars and opening brackets, and without the end of a filter, can only be a
row of names or a search. -/
theorem classify_of_noMarks (hstar : '*' ∉ fragment) (hbracket : '[' ∉ fragment)
    (hfilter : isFilter fragment = false) :
    classify fragment =
      if isNames fragment then .plain
      else if isDescendant fragment then .descendant else .unrecognized := by
  have hglob : isGlob fragment = false := by
    have hcontains : fragment.contains '*' = false := by simpa using hstar
    rw [isGlob, hcontains, Bool.false_and, Bool.false_and]
  have harray : ArrayForm.ofBracket? fragment = none := by
    rw [ArrayForm.ofBracket?]
    cases fragment with
    | nil => rfl
    | cons c cs =>
      have hopen : c ≠ '[' := by
        rintro rfl
        exact hbracket List.mem_cons_self
      rw [stripEnds?_of_ne hopen]
      rfl
  simp only [classify_eq_find?, SegmentKind.priority, List.find?_cons, SegmentKind.fits, hglob,
    hfilter, harray, Option.isSome_none, List.find?_nil]
  cases isNames fragment with
  | true => rfl
  | false => cases isDescendant fragment <;> rfl

/-- A dot is no character of a name. -/
theorem not_isNameChar_of_mem_dots {k : Nat} {c : Char} (hc : c ∈ List.replicate k '.') :
    isNameChar c = false := by
  rw [List.eq_of_mem_replicate hc]
  exact isNameChar_dot

/-- Dots in front make no difference. -/
theorem agreed_dots_append (k : Nat) (rest : List Char) :
    Agreed (List.replicate k '.' ++ rest) ↔ Agreed rest := by
  have hquote : '"' ∉ List.replicate k '.' := fun hmem =>
    absurd (List.eq_of_mem_replicate hmem) (by decide)
  have hmem : ∀ c, c ∈ outsideQuotes (List.replicate k '.' ++ rest) ↔
      c ∈ List.replicate k '.' ∨ c ∈ outsideQuotes rest := fun c => by
    rw [outsideQuotes_append_of_notMem hquote, List.mem_append]
  constructor
  · intro h c hc
    exact h c ((hmem c).mpr (.inr hc))
  · intro h c hc hname
    rcases (hmem c).mp hc with hdot | hc
    · rw [not_isNameChar_of_mem_dots hdot] at hname
      cases hname
    · exact h c hc hname

/-- No row of names and no search ends like a filter. -/
theorem NameFragment.isFilter_eq_false (h : NameFragment fragment) : isFilter fragment = false := by
  have hparen : isNameChar ')' = false := isNameChar_eq_of_lt (by decide)
  have hbracket : isNameChar ']' = false := isNameChar_eq_of_lt (by decide)
  cases h with
  | names hn h => exact isFilter_append_joined hparen hbracket hn h []
  | dots hk => rcases hk with rfl | rfl <;> rfl
  | search hk hn h => exact isFilter_append_joined hparen hbracket hn h _

/-- One of the two rules fits if and only if scanners and rules agree. -/
theorem NameFragment.fits_iff (h : NameFragment fragment) :
    isNames fragment = true ∨ isDescendant fragment = true ↔ Agreed fragment := by
  cases h with
  | @names n names hn h =>
    have hdescendant : isDescendant (n.text ++ dotted names) = false := by
      have hends := ends_dot_joined isNameChar_dot hn (dotted names)
      unfold isDescendant
      split
      · next heq => rw [heq] at hends; cases hends '.' rfl
      · next heq => rw [heq] at hends; cases hends '.' rfl
      · rfl
    rw [hdescendant, isNames_iff_of_fits hn h]
    simp [Agreed]
  | @dots k hk =>
    have hdescendant : isDescendant (List.replicate k '.') = true := by
      rcases hk with rfl | rfl <;> rfl
    have hagreed : Agreed (List.replicate k '.') := by
      rw [← List.append_nil (List.replicate k '.'), agreed_dots_append]
      exact fun c hc => absurd hc List.not_mem_nil
    simp [hdescendant, hagreed]
  | @search k hk n names hn h =>
    have hnames : isNames (List.replicate k '.' ++ (n.text ++ dotted names)) = false := by
      rcases hk with rfl | rfl <;> exact isNames_dot _
    have hempty : (n.text ++ dotted names).isEmpty = false := by
      rw [List.isEmpty_eq_false_iff]
      exact List.append_ne_nil_of_left_ne_nil hn.text_ne_nil _
    rw [hnames, isDescendant_dots hk (ends_dot_joined isNameChar_dot hn _), hempty, Bool.false_or,
      isNames_iff_of_fits hn h, agreed_dots_append]
    simp [Agreed]

section Understood

variable (h : NameFragment fragment) (hstar : '*' ∉ fragment) (hbracket : '[' ∉ fragment)

include h hstar hbracket

/-- A fragment on which scanners and rules agree is understood as names or as a search. -/
theorem kind_of_agreed (hagreed : Agreed fragment) :
    (segmentOf fragment).kind = .plain ∨ (segmentOf fragment).kind = .descendant := by
  have hclassify := classify_of_noMarks hstar hbracket h.isFilter_eq_false
  by_cases hnames : isNames fragment = true
  · rw [if_pos hnames] at hclassify
    left
    rw [segmentOf, hclassify]
    rfl
  · have hdescendant := (h.fits_iff.mpr hagreed).resolve_left hnames
    rw [if_neg hnames, if_pos hdescendant] at hclassify
    right
    rw [segmentOf, hclassify]
    dsimp only
    split <;> rfl

/-- Any other fragment is not understood. -/
theorem segmentOf_of_not_agreed (hagreed : ¬Agreed fragment) :
    segmentOf fragment = .unrecognized (String.ofList fragment) := by
  have hnone := mt h.fits_iff.mp hagreed
  rw [not_or] at hnone
  have hclassify := classify_of_noMarks hstar hbracket h.isFilter_eq_false
  rw [if_neg hnone.1, if_neg hnone.2] at hclassify
  rw [segmentOf, hclassify]

end Understood

/-! ## Compiling -/

theorem unrecognized?_eq_none_of_kind {s : Segment} (h : s.kind = .plain ∨ s.kind = .descendant) :
    s.unrecognized? = none := by
  cases s with
  | unrecognized fragment => rcases h with h | h <;> cases h
  | _ => rfl

/-- A path without stars and opening brackets is understood, and means names and searches, if in
each of its fragments the characters of bare names are word characters.  Otherwise the first
fragment in which they are not is reported. -/
theorem compile_names {path : String} (hstar : '*' ∉ path.toList) (hbracket : '[' ∉ path.toList) :
    ((∀ f ∈ split path, Agreed f.toList) →
      compile path = .ok (parse path) ∧
        ∀ s ∈ parse path, s.kind = .plain ∨ s.kind = .descendant) ∧
    ∀ before f after, split path = before ++ f :: after → (∀ g ∈ before, Agreed g.toList) →
      ¬Agreed f.toList → compile path = .error (.unrecognizedSegment path f) := by
  -- no fragment has a star or an opening bracket, so each is names or a search, or nothing at all
  have hbody : ∀ c, c ∈ stripRoot path.toList → c ∈ path.toList := fun c hc =>
    mem_of_mem_stripRoot hc
  have hfragment : ∀ f ∈ split path,
      NameFragment f.toList ∧ '*' ∉ f.toList ∧ '[' ∉ f.toList := by
    intro f hf
    obtain ⟨fragment, hmem, rfl⟩ := List.mem_map.mp hf
    rw [String.toList_ofList]
    exact nameFragment_of_mem_splitFrom (fun hc => hstar (hbody _ hc))
      (fun hc => hbracket (hbody _ hc)) fragment hmem
  have hkind : ∀ f ∈ split path, Agreed f.toList →
      (segment f).kind = .plain ∨ (segment f).kind = .descendant := fun f hf hagreed =>
    kind_of_agreed (hfragment f hf).1 (hfragment f hf).2.1 (hfragment f hf).2.2 hagreed
  constructor
  · -- all fragments are read
    intro hall
    have hkinds : ∀ s ∈ parse path, s.kind = .plain ∨ s.kind = .descendant := by
      intro s hs
      obtain ⟨f, hf, rfl⟩ := List.mem_map.mp hs
      exact hkind f hf (hall f hf)
    have hnone : (parse path).findSome? Segment.unrecognized? = none :=
      List.findSome?_eq_none_iff.mpr fun s hs => unrecognized?_eq_none_of_kind (hkinds s hs)
    refine ⟨?_, hkinds⟩
    simp only [compile, hnone]
  · -- those before the first bad one are read, and it is found behind them
    intro before f after hsplit hbefore hf
    have hmem : ∀ g ∈ before, g ∈ split path := fun g hg => hsplit ▸ List.mem_append_left _ hg
    have hnone : (before.map segment).findSome? Segment.unrecognized? = none := by
      rw [List.findSome?_eq_none_iff]
      intro s hs
      obtain ⟨g, hg, rfl⟩ := List.mem_map.mp hs
      exact unrecognized?_eq_none_of_kind (hkind g (hmem g hg) (hbefore g hg))
    obtain ⟨hname, hfstar, hfbracket⟩ := hfragment f (by rw [hsplit]; simp)
    have hsegment : segment f = .unrecognized f := by
      rw [segment, segmentOf_of_not_agreed hname hfstar hfbracket hf, String.ofList_toList]
    have hfirst : (parse path).findSome? Segment.unrecognized? = some f := by
      rw [parse, hsplit, List.map_append, List.map_cons, List.findSome?_append, hnone, hsegment]
      rfl
    simp only [compile, hfirst]

/-- A superscript two between quotes does not matter, and one outside of them makes the fragment
that it stands in not understood. -/
theorem compile_names_superscript :
    compile "$.a]\"b²\"..c" = .ok (parse "$.a]\"b²\"..c") ∧
      compile "a..b.c²(d²" = .error (.unrecognizedSegment "a..b.c²(d²" "..b.c²") := by
  constructor
  · have hsplit : split "$.a]\"b²\"..c" = ["a", "\"b²\"", "..c"] := by decide +kernel
    refine ((compile_names (by decide) (by decide)).1 fun f hf => ?_).1
    apply agreed_of_ascii
    rw [hsplit] at hf
    revert f
    decide +kernel
  · have hsplit : split "a..b.c²(d²" = ["a"] ++ "..b.c²" :: ["d²"] := by decide +kernel
    refine (compile_names (by decide) (by decide)).2 ["a"] "..b.c²" ["d²"] hsplit ?_ ?_
    · intro f hf
      apply agreed_of_ascii
      revert f
      decide +kernel
    · intro hagreed
      have hword : isWord '²' = true := hagreed '²' (by decide) (by decide +kernel)
      have hnone : isWord '²' = false := by decide +kernel
      exact Bool.false_ne_true (hnone.symm.trans hword)

/-- A path without stars and brackets that is not understood: to the scanners it is a name. -/
theorem compile_superscript :
    split "²" = ["²"] ∧ '*' ∉ "²".toList ∧ '[' ∉ "²".toList ∧
      compile "²" = .error (.unrecognizedSegment "²" "²") := by
  decide +kernel

end DocQuery.Path
