import Mathlib
import DocQuery.Document.Table
import DocQuery.Proofs.Pattern.Runs
import DocQuery.Proofs.Pattern.Size

/-!
# The Patterns for Columns

A column of whole numbers is searched for texts that are digits, and a column of dates for texts
that are digits with two hyphens among them.  The patterns have digits of all scripts, and no sign.

## Main definitions

- `isPlainDate`: the texts that the pattern for dates covers

## Main statements

- `fullMatch?_integerPattern`, `fullMatch?_datePattern`: the texts that the two patterns cover
-/

namespace DocQuery.Document

open DocQuery.Text DocQuery.Pattern

/-- Digits, so many at least, and so many at most if that is given. -/
def digits (least : Nat) (most : Option Nat) : Pattern := .repetition (.one digit) least most false

/-- A hyphen. -/
def hyphen : Pattern := .one (.single '-')

/-- The pattern for dates: two to four digits, two, and two to four, with hyphens between them. -/
def dateDigits : Pattern :=
  concatAll [digits 2 (some 4), hyphen, digits 2 (some 2), hyphen, digits 2 (some 4)]

/-! ## Reading the patterns -/

theorem written?_integerPattern : written? integerPattern.toList = some (digits 1 none, 1) := by
  refine written?_eq_some_iff.mpr ⟨{ pieces := [.part (digits 1 none) 1] }, ?_, rfl, rfl⟩
  refine (@Reader.run_of_skip_cons _ '\\' _ ['d', '+'] rfl).trans ?_
  refine (@Reader.run_of_skip_cons _ '+' _ [] rfl).trans ?_
  exact Reader.run_of_skip_nil rfl

theorem written?_datePattern : written? datePattern.toList = some (dateDigits, 2) := by
  refine written?_eq_some_iff.mpr ⟨{ pieces := [.part (digits 2 (some 4)) 1, .part hyphen 0,
    .part (digits 2 (some 2)) 1, .part hyphen 0, .part (digits 2 (some 4)) 1] }, ?_, rfl, rfl⟩
  -- construct by construct
  refine (@Reader.run_of_skip_cons _ '\\' _
    ("d\x7b2,4\x7d-\\d\x7b2\x7d-\\d\x7b2,4\x7d".toList) rfl).trans ?_
  refine (@Reader.run_of_skip_cons _ '\x7b' _
    ("2,4\x7d-\\d\x7b2\x7d-\\d\x7b2,4\x7d".toList) rfl).trans ?_
  refine (@Reader.run_of_skip_cons _ '-' _ ("\\d\x7b2\x7d-\\d\x7b2,4\x7d".toList) rfl).trans ?_
  refine (@Reader.run_of_skip_cons _ '\\' _ ("d\x7b2\x7d-\\d\x7b2,4\x7d".toList) rfl).trans ?_
  refine (@Reader.run_of_skip_cons _ '\x7b' _ ("2\x7d-\\d\x7b2,4\x7d".toList) rfl).trans ?_
  refine (@Reader.run_of_skip_cons _ '-' _ ("\\d\x7b2,4\x7d".toList) rfl).trans ?_
  refine (@Reader.run_of_skip_cons _ '\\' _ ("d\x7b2,4\x7d".toList) rfl).trans ?_
  refine (@Reader.run_of_skip_cons _ '\x7b' _ ("2,4\x7d".toList) rfl).trans ?_
  exact Reader.run_of_skip_nil rfl

/-! ## Their size -/

theorem fits_integers : Automaton.fits (between (digits 1 none)) = true :=
  Automaton.fits_of_cost (by decide +kernel)

theorem fits_dates : Automaton.fits (between dateDigits) = true :=
  Automaton.fits_of_cost (by decide +kernel)

/-! ## The texts they cover -/

/-- A pattern that can be put between anchors is matched with the whole text. -/
theorem fullMatch?_of_written? {pattern : String} {p : Pattern} {depth : Nat}
    (hwritten : written? pattern.toList = some (p, depth))
    (hopen : ¬EndsInComment pattern.toList) (hdepth : depth + 2 ≤ Reader.maxDepth)
    (hfits : Automaton.fits (between p) = true) (wf : p.WellFormed) (text : String) :
    fullMatch? pattern text = some (p.matchesAll text.toList) := by
  have hread : read? (anchored pattern.toList) = some (between p) := by
    refine read?_eq_some_iff.mpr ⟨depth + 2, written?_anchored hwritten hopen, ?_⟩
    simp [withinLimits, hdepth, hfits]
  rw [fullMatch?, hread, Option.map_some, occursIn_between wf]

theorem covers_digits_iff {cs : List Char} :
    (digits 1 none).Covers cs ↔ cs ≠ [] ∧ ∀ c ∈ cs, isDigit c = true := by
  have hstart : (digits 1 none).Covers cs ↔ Matches ([] ++ cs).toArray
      (.repetition (.one digit) 1 none false) ([] : List Char).length cs.length := Iff.rfl
  rw [hstart, matches_run_iff]
  constructor
  · rintro ⟨run, rest, rfl, hdigits, hpos, -, hlength⟩
    have hrest : rest = [] := by simpa using hlength
    rw [hrest, List.append_nil]
    exact ⟨List.length_pos_iff.mp hpos, hdigits⟩
  · rintro ⟨hne, hdigits⟩
    exact ⟨cs, [], (List.append_nil cs).symm, hdigits, List.length_pos_iff.mpr hne, by simp, rfl⟩

/-- A text is covered exactly if it is a row of digits, at least one. -/
theorem fullMatch?_integerPattern (text : String) :
    fullMatch? integerPattern text = some (Path.isInteger text.toList) := by
  have wf : (digits 1 none).WellFormed := ⟨by simp, trivial⟩
  rw [fullMatch?_of_written? written?_integerPattern (by decide +kernel) (by decide) fits_integers
    wf, Option.some.injEq, Bool.eq_iff_iff, matchesAll_iff_covers wf, covers_digits_iff]
  simp [Path.isInteger]

/-- Whether a text is two to four digits, two digits, and two to four digits, with hyphens between
them. -/
def isPlainDate (text : String) : Bool :=
  match splitAt '-' text.toList with
  | [first, middle, last] =>
    (first ++ middle ++ last).all isDigit && (2 ≤ first.length && first.length ≤ 4) &&
      middle.length == 2 && (2 ≤ last.length && last.length ≤ 4)
  | _ => false

theorem hyphen_notMem_of_digits {cs : List Char} (h : ∀ c ∈ cs, isDigit c = true) : '-' ∉ cs :=
  fun hmem => absurd (h '-' hmem) (by decide +kernel)

/-- The two hyphens cut a text into three runs of digits, and no other hyphen is there. -/
theorem isPlainDate_iff {text : String} :
    isPlainDate text = true ↔ ∃ first middle last : List Char,
      text.toList = first ++ '-' :: (middle ++ '-' :: last) ∧
        ((∀ c ∈ first, isDigit c = true) ∧ 2 ≤ first.length ∧ first.length ≤ 4) ∧
        ((∀ c ∈ middle, isDigit c = true) ∧ 2 ≤ middle.length ∧ middle.length ≤ 2) ∧
        (∀ c ∈ last, isDigit c = true) ∧ 2 ≤ last.length ∧ last.length ≤ 4 := by
  constructor
  · intro h
    -- the parts of the cut, put together again, are the text
    have hjoin := join_splitAt '-' text.toList
    unfold isPlainDate at h
    split at h
    · next first middle last hparts =>
      rw [hparts] at hjoin
      simp only [Bool.and_eq_true, List.all_append, List.all_eq_true, decide_eq_true_eq,
        beq_iff_eq] at h
      obtain ⟨⟨⟨⟨⟨hfirst, hmiddle⟩, hlast⟩, hlength⟩, hlength'⟩, hlength''⟩ := h
      refine ⟨first, middle, last, ?_, ⟨hfirst, hlength⟩, ⟨hmiddle, hlength'.ge, hlength'.le⟩,
        hlast, hlength''⟩
      rw [← hjoin]
      simp [join]
    · cases h
  · rintro ⟨first, middle, last, htext, ⟨hfirst, hlength⟩, ⟨hmiddle, hlength'⟩, hlast, hlength''⟩
    have hparts : splitAt '-' text.toList = [first, middle, last] := by
      rw [htext, splitAt_append (hyphen_notMem_of_digits hfirst),
        splitAt_append (hyphen_notMem_of_digits hmiddle),
        splitAt_of_notMem (hyphen_notMem_of_digits hlast)]
    have hexact : middle.length = 2 := by omega
    rw [isPlainDate, hparts]
    simp only [Bool.and_eq_true, List.all_append, List.all_eq_true, decide_eq_true_eq, beq_iff_eq]
    exact ⟨⟨⟨⟨⟨hfirst, hmiddle⟩, hlast⟩, hlength⟩, hexact⟩, hlength''⟩

theorem covers_dateDigits_iff {text : String} :
    dateDigits.Covers text.toList ↔ isPlainDate text = true := by
  have hstart : dateDigits.Covers text.toList ↔
      Matches ([] ++ text.toList).toArray (concatAll [digits 2 (some 4), hyphen, digits 2 (some 2),
        hyphen, digits 2 (some 4)]) ([] : List Char).length text.toList.length := Iff.rfl
  have hnil : concatAll [] = .empty := rfl
  rw [hstart, isPlainDate_iff]
  simp only [hyphen, digits, matches_one_concatAll_iff, matches_run_concatAll_iff,
    contains_single, hnil, matches_empty_iff]
  constructor
  · rintro ⟨first, _, htext, hfirst, hleast, hmost, _, _, rfl, rfl, middle, _, rfl, hmiddle,
      hleast', hmost', _, _, rfl, rfl, last, rest, rfl, hlast, hleast'', hmost'', hend⟩
    -- the last run goes to the end of the text
    have hrest : rest = [] := by
      have hlength := congrArg List.length htext
      simp only [List.length_append, List.length_cons, List.length_nil] at hlength hend
      exact List.length_eq_zero_iff.mp (by omega)
    refine ⟨first, middle, last, ?_, ⟨hfirst, hleast, hmost 4 rfl⟩,
      ⟨hmiddle, hleast', hmost' 2 rfl⟩, hlast, hleast'', hmost'' 4 rfl⟩
    rw [htext, hrest, List.append_nil]
  · rintro ⟨first, middle, last, htext, ⟨hfirst, hleast, hmost⟩, ⟨hmiddle, hleast', hmost'⟩, hlast,
      hleast'', hmost''⟩
    refine ⟨first, _, htext, hfirst, hleast, ?_, '-', _, rfl, rfl, middle, _, rfl, hmiddle, hleast',
      ?_, '-', _, rfl, rfl, last, [], (List.append_nil last).symm, hlast, hleast'', ?_, ?_⟩
    -- three upper bounds, and the place behind the last run
    · rintro m ⟨⟩
      exact hmost
    · rintro m ⟨⟩
      exact hmost'
    · rintro m ⟨⟩
      exact hmost''
    · rw [htext]
      simp [Nat.add_comm]

/-- A text is covered exactly if it is a date in plain digits. -/
theorem fullMatch?_datePattern (text : String) :
    fullMatch? datePattern text = some (isPlainDate text) := by
  have htwo : ∀ m ∈ some 2, 2 ≤ m := by simp
  have hfour : ∀ m ∈ some 4, 2 ≤ m := by simp
  have wf : dateDigits.WellFormed :=
    ⟨⟨hfour, trivial⟩, trivial, ⟨htwo, trivial⟩, trivial, hfour, trivial⟩
  rw [fullMatch?_of_written? written?_datePattern (by decide +kernel) (by decide) fits_dates wf,
    Option.some.injEq, Bool.eq_iff_iff, matchesAll_iff_covers wf, covers_dateDigits_iff]

end DocQuery.Document
