import Mathlib
import DocQuery.Proofs.Path.Covering

/-!
# What the Rule for Brackets Covers

Between brackets there may be a clause, indices and ranges, a star or a key.  Each of these is
recognized by a function of its own, which accepts exactly the texts that an alternative of the
pattern covers.

A number in an index or a range takes as many characters as it can.  The pattern may take fewer, but
then there is nothing that it could not have taken as well.

## Main statements

- `mem_clausePattern_iff`, `mem_slicesPattern_iff`, `mem_keyPattern_iff`: what the alternatives
  cover
- `mem_bodyPattern_iff`, `mem_bracket_iff`: what the rule covers
-/

namespace DocQuery.Path

open DocQuery.Text DocQuery.Pattern Computability

variable {cs : List Char} {c : Char}

/-! ## Clauses and keys -/

/-- A clause stands between parentheses, with or without a question mark in front. -/
theorem isClause_iff :
    isClause cs = true ↔ ∃ mark middle, cs = mark ++ '(' :: (middle ++ [')']) ∧
      (mark = [] ∨ mark = ['?']) ∧ '\n' ∉ middle ∧ middle ≠ [] := by
  constructor
  · intro h
    obtain ⟨middle, hstrip, hmiddle⟩ := (Option.any_eq_true _ _).mp h
    have hmiddle : middle ≠ [] ∧ '\n' ∉ middle := by simpa using hmiddle
    split at hstrip
    · next rest =>
      refine ⟨['?'], middle, ?_, .inr rfl, hmiddle.symm⟩
      rw [eq_of_stripEnds? hstrip]
      rfl
    · exact ⟨[], middle, eq_of_stripEnds? hstrip, .inl rfl, hmiddle.symm⟩
  · rintro ⟨mark, middle, rfl, rfl | rfl, hline, hne⟩
    · simp [isClause, stripEnds?_concat, hline, hne]
    · simp [isClause, stripEnds?_concat, hline, hne]

theorem mem_clausePattern_iff : cs ∈ clausePattern.language ↔ isClause cs = true := by
  rw [isClause_iff, clausePattern, language_concatAll]
  simp only [mem_rowLanguage_cons_cons, mem_rowLanguage_singleton,
    mem_character_iff, mem_optional_character_iff, lineChars, mem_run_compl_single_iff]
  constructor
  · rintro ⟨mark, hmark, _, ⟨_, rfl, _, ⟨middle, ⟨hline, hlength⟩, _, rfl, rfl⟩, rfl⟩, rfl⟩
    exact ⟨mark, middle, rfl, hmark, hline, List.ne_nil_of_length_pos hlength⟩
  · rintro ⟨mark, middle, rfl, hmark, hline, hne⟩
    exact ⟨mark, hmark, _, ⟨_, rfl, _, ⟨middle, ⟨hline, List.length_pos_iff.mpr hne⟩, _, rfl, rfl⟩,
      rfl⟩, rfl⟩

/-- A key stands between two quotes. -/
theorem isSome_quotedKey?_iff {quote : Char} :
    (quotedKey? quote cs).isSome = true ↔ ∃ key, cs = quote :: (key ++ [quote]) ∧
      '\n' ∉ key ∧ key ≠ [] := by
  rw [Option.isSome_iff_exists]
  constructor
  · rintro ⟨key, h⟩
    obtain ⟨hstrip, hkey⟩ := Option.filter_eq_some_iff.mp h
    have hkey : key ≠ [] ∧ '\n' ∉ key := by simpa using hkey
    exact ⟨key, eq_of_stripEnds? hstrip, hkey.symm⟩
  · rintro ⟨key, rfl, hline, hne⟩
    have hstrip : stripEnds? quote quote (quote :: (key ++ [quote])) = some key :=
      stripEnds?_concat quote quote key
    exact ⟨key, Option.filter_eq_some_iff.mpr ⟨hstrip, by simp [hline, hne]⟩⟩

theorem mem_keyPattern_iff {quote : Char} {number : Nat} :
    cs ∈ (keyPattern quote number).language ↔ (quotedKey? quote cs).isSome = true := by
  have hgroup (key : List Char) : key ∈ (Pattern.group (some number)
      (.repetition (.one lineChars) 1 none true)).language ↔ '\n' ∉ key ∧ 1 ≤ key.length :=
    @mem_run_compl_single_iff key '\n' 1 true
  rw [isSome_quotedKey?_iff, keyPattern, language_concatAll]
  simp only [mem_rowLanguage_cons_cons, mem_rowLanguage_singleton,
    mem_character_iff, hgroup]
  constructor
  · rintro ⟨_, rfl, _, ⟨key, ⟨hline, hlength⟩, _, rfl, rfl⟩, rfl⟩
    exact ⟨key, rfl, hline, List.ne_nil_of_length_pos hlength⟩
  · rintro ⟨key, rfl, hline, hne⟩
    exact ⟨_, rfl, _, ⟨key, ⟨hline, List.length_pos_iff.mpr hne⟩, _, rfl, rfl⟩, rfl⟩

/-! ## Indices and ranges -/

theorem mem_digits_iff :
    cs ∈ (star (.one digit)).language ↔ ∀ c ∈ cs, isDigit c = true := by
  rw [star, mem_language_run]
  exact and_iff_left ⟨Nat.zero_le _, by simp⟩

/-- What is left behind a number that may be missing. -/
def behindNumber (cs : List Char) : List Char := (dropOne '-' cs).dropWhile isDigit

theorem isSlice_iff :
    isSlice cs = true ↔ behindNumber (dropOne ':' (behindNumber cs)) = [] := by
  rw [isSlice_eq, List.isEmpty_iff]
  rfl

theorem isDigit_comma : isDigit ',' = false := isDigit_eq_of_lt (by decide)

theorem isDigit_colon : isDigit ':' = false := isDigit_eq_of_lt (by decide)

theorem isDigit_hyphen : isDigit '-' = false := isDigit_eq_of_lt (by decide)

/-- What stands in front of the rest is a character or nothing. -/
theorem exists_dropOne (c : Char) (cs : List Char) :
    ∃ front, cs = front ++ dropOne c cs ∧ (front = [] ∨ front = [c]) := by
  cases cs with
  | nil => exact ⟨[], rfl, .inl rfl⟩
  | cons d cs =>
    rw [dropOne]
    split
    · next hd => exact ⟨[c], by rw [hd]; rfl, .inr rfl⟩
    · exact ⟨[], rfl, .inl rfl⟩

/-- A text that begins with neither a hyphen nor a digit is left by a number that is missing. -/
theorem behindNumber_of_ne (hhyphen : c ≠ '-') (hdigit : isDigit c = false) (cs : List Char) :
    behindNumber (c :: cs) = c :: cs := by
  rw [behindNumber, dropOne, if_neg hhyphen, dropWhile_of_ends (ends_cons hdigit cs)]

theorem dropWhile_digits {digits : List Char} (h : ∀ c ∈ digits, isDigit c = true)
    (rest : List Char) : (digits ++ rest).dropWhile isDigit = rest.dropWhile isDigit :=
  List.dropWhile_append_of_pos h

/-- A number is taken as far as it goes: behind it digits are left out, and the whole next number
if it is missing. -/
theorem behindNumber_append {sign digits : List Char} (hsign : sign = [] ∨ sign = ['-'])
    (hdigits : ∀ c ∈ digits, isDigit c = true) (rest : List Char) :
    behindNumber (sign ++ digits ++ rest) = rest.dropWhile isDigit ∨
      behindNumber (sign ++ digits ++ rest) = behindNumber rest := by
  rcases hsign with rfl | rfl
  · cases digits with
    | nil => exact .inr rfl
    | cons d digits =>
      have hd : d ≠ '-' := by
        rintro rfl
        have := hdigits '-' List.mem_cons_self
        rw [isDigit_hyphen] at this
        cases this
      left
      rw [behindNumber, List.nil_append, List.cons_append, dropOne, if_neg hd, ← List.cons_append,
        dropWhile_digits hdigits]
  · left
    rw [behindNumber, List.append_assoc, List.singleton_append, dropOne, if_pos rfl,
      dropWhile_digits hdigits]

/-- A number takes a sign and digits, or nothing. -/
theorem exists_behindNumber (cs : List Char) :
    ∃ sign digits, cs = sign ++ digits ++ behindNumber cs ∧ (sign = [] ∨ sign = ['-']) ∧
      ∀ c ∈ digits, isDigit c = true := by
  obtain ⟨sign, hsign, hmark⟩ := exists_dropOne '-' cs
  refine ⟨sign, (dropOne '-' cs).takeWhile isDigit, ?_, hmark,
    fun c hc => List.mem_takeWhile_imp hc⟩
  rw [behindNumber, List.append_assoc, List.takeWhile_append_dropWhile, ← hsign]

/-- A number takes as much of a number as there is. -/
theorem behindNumber_number {sign digits : List Char} (hsign : sign = [] ∨ sign = ['-'])
    (hdigits : ∀ c ∈ digits, isDigit c = true) : behindNumber (sign ++ digits) = [] := by
  have hends := behindNumber_append hsign hdigits []
  rw [List.append_nil] at hends
  rcases hends with hends | hends
  · exact hends
  · exact hends

/-- An index or a range: a number, a colon, a number, each of them optional. -/
theorem mem_sliceParts_iff_exists :
    cs ∈ rowLanguage sliceParts ↔ ∃ sign digits colon sign' digits' : List Char,
      cs = sign ++ digits ++ (colon ++ (sign' ++ digits')) ∧
        ((sign = [] ∨ sign = ['-']) ∧ ∀ c ∈ digits, isDigit c = true) ∧
        (colon = [] ∨ colon = [':']) ∧
        (sign' = [] ∨ sign' = ['-']) ∧ ∀ c ∈ digits', isDigit c = true := by
  simp only [sliceParts, mem_rowLanguage_cons_cons, mem_rowLanguage_singleton,
    mem_optional_character_iff, mem_digits_iff]
  constructor
  · rintro ⟨sign, hsign, _, ⟨digits, hdigits, _, ⟨colon, hcolon, _, ⟨sign', hsign', digits',
      hdigits', rfl⟩, rfl⟩, rfl⟩, rfl⟩
    exact ⟨sign, digits, colon, sign', digits', by rw [List.append_assoc], ⟨hsign, hdigits⟩, hcolon,
      hsign', hdigits'⟩
  · rintro ⟨sign, digits, colon, sign', digits', rfl, ⟨hsign, hdigits⟩, hcolon, hsign', hdigits'⟩
    exact ⟨sign, hsign, _, ⟨digits, hdigits, _, ⟨colon, hcolon, _, ⟨sign', hsign', digits',
      hdigits', rfl⟩, rfl⟩, rfl⟩, by rw [List.append_assoc]⟩

/-- The rule for an index or a range takes as much as it can, and nothing is left that might have
been taken otherwise. -/
theorem mem_sliceParts_iff : cs ∈ rowLanguage sliceParts ↔ isSlice cs = true := by
  rw [isSlice_iff, mem_sliceParts_iff_exists]
  constructor
  · rintro ⟨sign, digits, colon, sign', digits', rfl, ⟨hsign, hdigits⟩, hcolon, hsign', hdigits'⟩
    have hlast : behindNumber (sign' ++ digits') = [] := behindNumber_number hsign' hdigits'
    have hfirst := behindNumber_append hsign hdigits (colon ++ (sign' ++ digits'))
    rcases hcolon with rfl | rfl
    · -- without a colon the first number may take all, or leave a second one
      rcases hfirst with hfirst | hfirst
      · rw [hfirst]
        rcases hsign' with rfl | rfl
        · have hnone : ([] ++ ([] ++ digits')).dropWhile isDigit = [] :=
            List.dropWhile_eq_nil_iff.mpr hdigits'
          rw [hnone]
          rfl
        · rw [List.nil_append, List.singleton_append,
            dropWhile_of_ends (ends_cons isDigit_hyphen digits')]
          exact hlast
      · rw [hfirst, List.nil_append, hlast]
        rfl
    · have hleft : behindNumber (sign ++ digits ++ ([':'] ++ (sign' ++ digits'))) =
          ':' :: (sign' ++ digits') := by
        rcases hfirst with hfirst | hfirst
        · rw [hfirst]
          exact dropWhile_of_ends (ends_cons isDigit_colon _)
        · rw [hfirst]
          exact behindNumber_of_ne (by decide) isDigit_colon _
      rw [hleft, dropOne, if_pos rfl, hlast]
  · intro h
    obtain ⟨sign, digits, hcs, hsign, hdigits⟩ := exists_behindNumber cs
    obtain ⟨colon, hrest, hcolon⟩ := exists_dropOne ':' (behindNumber cs)
    obtain ⟨sign', digits', hlast, hsign', hdigits'⟩ :=
      exists_behindNumber (dropOne ':' (behindNumber cs))
    rw [h, List.append_nil] at hlast
    refine ⟨sign, digits, colon, sign', digits', ?_, ⟨hsign, hdigits⟩, hcolon, hsign', hdigits'⟩
    rw [← hlast, ← hrest, ← hcs]

/-- An index or a range holds no comma. -/
theorem comma_notMem_of_isSlice (h : isSlice cs = true) : ',' ∉ cs := by
  obtain ⟨sign, digits, colon, sign', digits', rfl, ⟨hsign, hdigits⟩, hcolon, hsign', hdigits'⟩ :=
    mem_sliceParts_iff_exists.mp (mem_sliceParts_iff.mpr h)
  have hrun (digits : List Char) (h : ∀ c ∈ digits, isDigit c = true) : ',' ∉ digits := by
    intro hmem
    have := h ',' hmem
    rw [isDigit_comma] at this
    cases this
  have hmark (mark : List Char) (c : Char) (hc : c ≠ ',') (h : mark = [] ∨ mark = [c]) :
      ',' ∉ mark := by
    rcases h with rfl | rfl <;> simp [hc.symm]
  simp only [List.mem_append, not_or]
  exact ⟨⟨hmark _ '-' (by decide) hsign, hrun _ hdigits⟩, hmark _ ':' (by decide) hcolon,
    hmark _ '-' (by decide) hsign', hrun _ hdigits'⟩

/-- Indices and ranges with commas between them are cut at the commas. -/
theorem mem_slicesPattern_iff :
    cs ∈ slicesPattern.language ↔ (splitAt ',' cs).all isSlice = true := by
  have hmore : (star (.group none (concatAll (character ',' :: sliceParts)))).language =
      ((character ',').language * rowLanguage sliceParts)∗ := by
    rw [star, language_star, language, language_concatAll]
    rfl
  rw [slicesPattern, language_concatAll, rowLanguage_append, Language.mem_mul, List.all_eq_true]
  simp only [mem_rowLanguage_singleton, hmore, mem_kstar_character_iff, mem_sliceParts_iff]
  constructor
  · rintro ⟨first, hfirst, _, ⟨others, hothers, rfl⟩, rfl⟩
    have hall : ∀ item ∈ first :: others, isSlice item = true :=
      List.forall_mem_cons.mpr ⟨hfirst, hothers⟩
    rw [← join_cons, splitAt_join (List.cons_ne_nil _ _) fun item hitem =>
      comma_notMem_of_isSlice (hall item hitem)]
    exact hall
  · intro h
    obtain ⟨first, others, hparts⟩ := List.exists_cons_of_ne_nil (splitAt_ne_nil ',' cs)
    rw [hparts] at h
    obtain ⟨hfirst, hothers⟩ := List.forall_mem_cons.mp h
    refine ⟨first, hfirst, _, ⟨others, hothers, rfl⟩, ?_⟩
    rw [← join_cons, ← hparts, join_splitAt]

/-! ## Brackets as a whole -/

theorem mem_bodyPattern_iff :
    cs ∈ bodyPattern.language ↔ (ArrayForm.ofBody? cs).isSome = true := by
  have hchoice : bodyPattern.language = clausePattern.language + (slicesPattern.language +
      ((character '*').language + ((keyPattern '\x27' 4).language + ((keyPattern '"' 5).language +
        (keyPattern '\x60' 6).language)))) := rfl
  rw [hchoice]
  simp only [Language.mem_add, mem_clausePattern_iff, mem_slicesPattern_iff, mem_character_iff,
    mem_keyPattern_iff]
  unfold ArrayForm.ofBody?
  split_ifs with hclause hslices hall
  · simp [hclause]
  · simp [hclause, hslices]
  · simp [hall]
  · simp [hclause, hslices, hall]

theorem isSome_ofBracket?_iff :
    (ArrayForm.ofBracket? cs).isSome = true ↔
      ∃ body, cs = bracket body ∧ (ArrayForm.ofBody? body).isSome = true := by
  constructor
  · intro h
    obtain ⟨form, hform⟩ := Option.isSome_iff_exists.mp h
    obtain ⟨body, hstrip, hbody⟩ := Option.bind_eq_some_iff.mp hform
    exact ⟨body, eq_of_stripEnds? hstrip, by rw [hbody]; rfl⟩
  · rintro ⟨body, rfl, hbody⟩
    rwa [ArrayForm.ofBracket?, bracket, stripEnds?_concat, Option.bind_some]

/-- A bracket around a pattern. -/
theorem mem_bracket_iff {p : Pattern} :
    cs ∈ rowLanguage (bracketParts p) ↔ ∃ body, cs = bracket body ∧ body ∈ p.language := by
  have hgroup : (Pattern.group none p).language = p.language := rfl
  simp only [bracketParts, mem_rowLanguage_cons_cons, mem_rowLanguage_singleton, mem_character_iff,
    hgroup]
  constructor
  · rintro ⟨_, rfl, _, ⟨body, hbody, _, rfl, rfl⟩, rfl⟩
    exact ⟨body, rfl, hbody⟩
  · rintro ⟨body, rfl, hbody⟩
    exact ⟨_, rfl, _, ⟨body, hbody, _, rfl, rfl⟩, rfl⟩

end DocQuery.Path
