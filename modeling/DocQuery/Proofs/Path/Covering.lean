import Mathlib
import DocQuery.Proofs.Path.Compiling
import DocQuery.Proofs.Path.Patterns

/-!
# What the Rules Cover

The rules for names, globs, filters and searches look at a fragment character by character.  Each of
them accepts exactly the texts that its pattern covers.  The pattern for filters says more than it
has to: the bracket and the question mark in front of the parenthesis may as well be taken by what
stands before them.

## Main statements

- `mem_plainParts_iff`, `mem_globParts_iff`, `mem_filterParts_iff`, `mem_descendantParts_iff`: what
  the patterns of the rules cover
-/

namespace DocQuery.Path

open DocQuery.Text DocQuery.Pattern Computability

variable {cs : List Char} {c : Char}

/-! ## Parts -/

theorem mem_character_iff : cs ∈ (character c).language ↔ cs = [c] := mem_language_single

theorem mem_optional_character_iff :
    cs ∈ (optional (character c)).language ↔ cs = [] ∨ cs = [c] :=
  mem_language_optional.trans (or_congr_right mem_character_iff)

theorem contains_compl_single {d : Char} :
    (CodePointSet.single c).compl.contains d = true ↔ d ≠ c := by
  have hascending : (CodePointSet.single c).changes.Pairwise (· < ·) := by
    simp [CodePointSet.single]
  rw [CodePointSet.contains_compl hascending, Bool.not_eq_true', ← Bool.not_eq_true,
    contains_single]

/-- A run of anything but one character. -/
theorem mem_run_compl_single_iff {least : Nat} {lazy : Bool} :
    cs ∈ (Pattern.repetition (.one (CodePointSet.single c).compl) least none lazy).language ↔
      c ∉ cs ∧ least ≤ cs.length := by
  have hmost : ∀ m ∈ (none : Option Nat), cs.length ≤ m := by simp
  rw [mem_language_run]
  simp only [contains_compl_single]
  constructor
  · rintro ⟨hne, hleast, -⟩
    exact ⟨fun hmem => hne c hmem rfl, hleast⟩
  · rintro ⟨hnot, hleast⟩
    exact ⟨fun d hd he => hnot (he ▸ hd), hleast, hmost⟩

theorem mem_anyLine_iff : cs ∈ anyLine.language ↔ '\n' ∉ cs :=
  mem_run_compl_single_iff.trans (and_iff_left (Nat.zero_le _))

/-- The marks that end a glob are those of the set. -/
theorem contains_globStops (c : Char) : globStops.contains c = isGlobStop c := by
  have hset : globStops.changes = [34, 35, 39, 42, 46, 47, 63, 64, 91, 92, 93, 94] := by decide
  have hmarks : isGlobStop c = true ↔ c.toNat ∈ [46, 91, 93, 40, 41, 63, 39, 34] := by
    simp [isGlobStop, ← Char.toNat_inj]
  rw [Bool.eq_iff_iff, hmarks, CodePointSet.contains, CodePointSet.holds, hset]
  by_cases hlow : c.toNat < 94
  · generalize c.toNat = n at hlow
    revert n
    decide
  · simp only [CodePointSet.containsFrom]
    simp
    omega

/-! ## Names -/

/-- A name is a run of word characters, or stands between quotes. -/
theorem mem_namePattern_iff :
    cs ∈ namePattern.language ↔ ∃ n : WrittenName, n.Fits isWord ∧ cs = n.text := by
  have hchoice : namePattern.language = (Pattern.repetition (.one word) 1 none false).language +
      (concatAll [character '"', .repetition (.one quotedChars) 1 none false,
        character '"']).language := rfl
  rw [hchoice, Language.mem_add, mem_language_run, language_concatAll]
  simp only [mem_rowLanguage_cons_cons, mem_rowLanguage_singleton,
    mem_character_iff, quotedChars, mem_run_compl_single_iff]
  constructor
  · rintro (⟨hword, hlength, -⟩ | ⟨_, rfl, _, ⟨name, ⟨hquote, hlength⟩, _, rfl, rfl⟩, rfl⟩)
    · exact ⟨.bare cs, ⟨List.ne_nil_of_length_pos hlength, hword⟩, rfl⟩
    · exact ⟨.quoted name, ⟨List.ne_nil_of_length_pos hlength, hquote⟩, rfl⟩
  · rintro ⟨n, hn, rfl⟩
    cases n with
    | bare name => exact .inl ⟨hn.2, List.length_pos_iff.mpr hn.1, by simp⟩
    | quoted name =>
      exact .inr ⟨_, rfl, _, ⟨name, ⟨hn.2, List.length_pos_iff.mpr hn.1⟩, _, rfl, rfl⟩, rfl⟩

/-- Any number of items, each behind the same character. -/
theorem mem_kstar_character_iff {L : Language Char} :
    cs ∈ ((character c).language * L)∗ ↔
      ∃ items : List (List Char), (∀ item ∈ items, item ∈ L) ∧ cs = items.flatMap ([c] ++ ·) := by
  rw [Language.mem_kstar]
  simp only [Language.mem_mul, mem_character_iff]
  constructor
  · rintro ⟨parts, rfl, hparts⟩
    induction parts with
    | nil => exact ⟨[], List.forall_mem_nil _, rfl⟩
    | cons part parts ih =>
      obtain ⟨⟨_, rfl, item, hitem, rfl⟩, hrest⟩ := List.forall_mem_cons.mp hparts
      obtain ⟨items, hitems, htext⟩ := ih hrest
      exact ⟨item :: items, List.forall_mem_cons.mpr ⟨hitem, hitems⟩,
        by rw [List.flatten_cons, htext, List.flatMap_cons]⟩
  · rintro ⟨items, hitems, rfl⟩
    refine ⟨items.map ([c] ++ ·), List.flatMap_def, List.forall_mem_map.mpr fun item hitem => ?_⟩
    exact ⟨[c], rfl, item, hitems item hitem, rfl⟩

/-- More names are names with dots in front. -/
theorem mem_moreNames_iff :
    cs ∈ moreNames.language ↔
      ∃ names : List WrittenName, (∀ m ∈ names, m.Fits isWord) ∧ cs = dotted names := by
  have hstar : moreNames.language = ((character '.').language * namePattern.language)∗ :=
    language_star
  rw [hstar, mem_kstar_character_iff]
  simp only [mem_namePattern_iff]
  constructor
  · rintro ⟨items, hitems, rfl⟩
    induction items with
    | nil => exact ⟨[], List.forall_mem_nil _, rfl⟩
    | cons item items ih =>
      obtain ⟨⟨n, hn, rfl⟩, hrest⟩ := List.forall_mem_cons.mp hitems
      obtain ⟨names, hnames, htext⟩ := ih hrest
      refine ⟨n :: names, List.forall_mem_cons.mpr ⟨hn, hnames⟩, ?_⟩
      rw [List.flatMap_cons, htext]
      rfl
  · rintro ⟨names, hnames, rfl⟩
    have htexts : ∀ item ∈ names.map WrittenName.text, ∃ n : WrittenName, n.Fits isWord ∧
        item = n.text := List.forall_mem_map.mpr fun n hn => ⟨n, hnames n hn, rfl⟩
    refine ⟨names.map WrittenName.text, htexts, ?_⟩
    rw [List.flatMap_map]
    rfl

/-- The rule for names is what it is written as. -/
theorem mem_plainParts_iff : cs ∈ rowLanguage plainParts ↔ isNames cs = true := by
  rw [isNames_iff]
  simp only [plainParts, mem_rowLanguage_cons_cons, mem_rowLanguage_singleton, mem_namePattern_iff,
    mem_moreNames_iff]
  constructor
  · rintro ⟨_, ⟨n, hn, rfl⟩, _, ⟨names, hnames, rfl⟩, rfl⟩
    exact ⟨n, names, hn, hnames, rfl⟩
  · rintro ⟨n, names, hn, hnames, rfl⟩
    exact ⟨_, ⟨n, hn, rfl⟩, _, ⟨names, hnames, rfl⟩, rfl⟩

/-! ## The rules before brackets -/

theorem mem_filterParts_iff : cs ∈ rowLanguage filterParts ↔ isFilter cs = true := by
  rw [isFilter_iff]
  simp only [filterParts, mem_rowLanguage_cons_cons, mem_rowLanguage_singleton, mem_character_iff,
    mem_optional_character_iff, mem_anyLine_iff]
  constructor
  · rintro ⟨front, hfront, _, ⟨open', hopen, _, ⟨mark, hmark, _, ⟨_, rfl, _, ⟨middle, hmiddle, _,
      ⟨_, rfl, last, hlast, rfl⟩, rfl⟩, rfl⟩, rfl⟩, rfl⟩, rfl⟩
    -- the bracket and the question mark in front count as anything else
    refine ⟨front ++ open' ++ mark, middle, last, by simp, ?_, hmiddle, hlast⟩
    rcases hopen with rfl | rfl <;> rcases hmark with rfl | rfl <;> simp [hfront]
  · rintro ⟨front, middle, last, rfl, hfront, hmiddle, hlast⟩
    exact ⟨front, hfront, _, ⟨[], .inl rfl, _, ⟨[], .inl rfl, _, ⟨_, rfl, _, ⟨middle, hmiddle, _,
      ⟨_, rfl, last, hlast, rfl⟩, rfl⟩, rfl⟩, rfl⟩, rfl⟩, rfl⟩

/-- Two or three dots, and names or nothing. -/
theorem isDescendant_iff :
    isDescendant cs = true ↔ ∃ k rest, (k = 2 ∨ k = 3) ∧ cs = List.replicate k '.' ++ rest ∧
      (rest = [] ∨ isNames rest = true) := by
  constructor
  · intro h
    unfold isDescendant at h
    split at h
    · next rest => exact ⟨3, rest, .inr rfl, rfl, by simpa using h⟩
    · next rest _ => exact ⟨2, rest, .inl rfl, rfl, by simpa using h⟩
    · cases h
  · rintro ⟨k, rest, hk, rfl, hrest⟩
    -- no name begins with a dot
    have hends : Ends (· == '.') rest := by
      rcases hrest with rfl | hnames
      · exact ends_nil _
      · cases rest with
        | nil => exact ends_nil _
        | cons c rest =>
          have hc : c ≠ '.' := by
            rintro rfl
            rw [isNames_dot] at hnames
            cases hnames
          exact ends_cons (by simpa using hc) rest
    rw [isDescendant_dots hk hends]
    simpa using hrest

theorem mem_descendantParts_iff :
    cs ∈ rowLanguage descendantParts ↔ isDescendant cs = true := by
  have hnames (rest : List Char) :
      rest ∈ (Pattern.group none (concatAll plainParts)).language ↔ isNames rest = true := by
    rw [language, language_concatAll, mem_plainParts_iff]
  rw [isDescendant_iff]
  simp only [descendantParts, mem_rowLanguage_cons_cons, mem_rowLanguage_singleton, character,
    mem_language_run, contains_single, optional, mem_language_optional, hnames]
  constructor
  · rintro ⟨dots, ⟨hdots, htwo, hthree⟩, rest, hrest, rfl⟩
    have hlength : dots.length = 2 ∨ dots.length = 3 := by
      have := hthree 3 rfl
      omega
    exact ⟨dots.length, rest, hlength, by rw [← List.eq_replicate_of_mem hdots], hrest⟩
  · rintro ⟨k, rest, hk, rfl, hrest⟩
    refine ⟨_, ⟨fun c hc => List.eq_of_mem_replicate hc, ?_, ?_⟩, rest, hrest, rfl⟩
    · rw [List.length_replicate]
      omega
    · rintro m ⟨⟩
      rw [List.length_replicate]
      omega

theorem mem_globParts_iff :
    cs ∈ rowLanguage globParts ↔ cs.all (!isGlobStop ·) = true := by
  have hascending : globStops.changes.Pairwise (· < ·) := by decide
  rw [globParts, mem_rowLanguage_singleton, star, mem_language_run, List.all_eq_true]
  simp only [CodePointSet.contains_compl hascending, contains_globStops]
  exact and_iff_left ⟨Nat.zero_le _, by simp⟩

end DocQuery.Path
