import Mathlib
import DocQuery.Proofs.Pattern.Runs

/-!
# The Language of a Pattern

A pattern without assertions covers the same texts wherever they stand.  These texts are a
language, and each construct of patterns is an operation on languages.  A pattern that is a row of
such patterns between anchors then occurs in a text exactly if the text is in the product of their
languages.

## Main definitions

- `language`, `rowLanguage`: the texts that a pattern covers, and that several in a row cover
- `row`: patterns in a row between anchors

## Main statements

- `spans_language`: a pattern without assertions covers the texts of its language
- `occursIn_row_iff`: a row between anchors occurs in the texts that it covers from end to end
-/

namespace DocQuery.Pattern

open DocQuery.Text Computability

/-! ## Languages -/

/-- The texts that a pattern covers.  Assertions count as the empty text. -/
def language : Pattern → Language Char
  | empty | assertion _ => 1
  | one set => letters set
  | group _ p => p.language
  | concat p q => p.language * q.language
  | choice p q => p.language + q.language
  | repetition p least most _ =>
    {cs | ∃ n, least ≤ n ∧ (∀ m ∈ most, n ≤ m) ∧ cs ∈ p.language ^ n}

/-- Whether a pattern covers the same texts everywhere, because it asserts nothing of the place. -/
def isPlaceless : Pattern → Bool
  | assertion _ => false
  | group _ p | repetition p _ _ _ => p.isPlaceless
  | concat p q | choice p q => p.isPlaceless && q.isPlaceless
  | empty | one _ => true

theorem Spans.concat {p q : Pattern} {L M : Language Char} (hp : p.Spans L) (hq : q.Spans M) :
    (concat p q).Spans (L * M) := by
  intro front cs j
  simp only [matches_concat_iff, hp front cs, Language.mem_mul]
  constructor
  · rintro ⟨_, ⟨first, rest, rfl, hfirst, rfl⟩, right⟩
    rw [← List.append_assoc] at right
    obtain ⟨second, rest, rfl, hsecond, rfl⟩ := (hq _ _ _).mp right
    exact ⟨first ++ second, rest, by simp, ⟨first, hfirst, second, hsecond, rfl⟩, by simp⟩
  · rintro ⟨_, rest, rfl, ⟨first, hfirst, second, hsecond, rfl⟩, rfl⟩
    refine ⟨_, ⟨first, second ++ rest, by simp, hfirst, rfl⟩, ?_⟩
    rw [List.append_assoc, ← List.append_assoc]
    exact (hq _ _ _).mpr ⟨second, rest, rfl, hsecond, by simp⟩

theorem Spans.choice {p q : Pattern} {L M : Language Char} (hp : p.Spans L) (hq : q.Spans M) :
    (choice p q).Spans (L + M) := by
  intro front cs j
  constructor
  · intro h
    cases h with
    | left h =>
      obtain ⟨run, rest, hcs, hrun, hj⟩ := (hp _ _ _).mp h
      exact ⟨run, rest, hcs, .inl hrun, hj⟩
    | right h =>
      obtain ⟨run, rest, hcs, hrun, hj⟩ := (hq _ _ _).mp h
      exact ⟨run, rest, hcs, .inr hrun, hj⟩
  · rintro ⟨run, rest, hcs, hrun | hrun, hj⟩
    · exact .left ((hp _ _ _).mpr ⟨run, rest, hcs, hrun, hj⟩)
    · exact .right ((hq _ _ _).mpr ⟨run, rest, hcs, hrun, hj⟩)

theorem Spans.group {p : Pattern} {L : Language Char} (hp : p.Spans L) (number : Option Nat) :
    (group number p).Spans L := by
  intro front cs j
  rw [← hp front cs j]
  constructor
  · rintro ⟨⟩
    assumption
  · exact .group

/-- A pattern that asserts nothing covers the texts of its language, wherever they stand. -/
theorem spans_language {p : Pattern} (h : p.isPlaceless = true) : p.Spans p.language := by
  induction p with
  | empty =>
    intro front cs j
    rw [matches_empty_iff]
    constructor
    · rintro rfl
      exact ⟨[], cs, rfl, rfl, by rw [List.append_nil]⟩
    · rintro ⟨run, rest, -, hrun, rfl⟩
      rw [(Language.mem_one run).mp hrun, List.append_nil]
  | one set => exact spans_one set
  | assertion a => cases h
  | group number p ih => exact (ih h).group number
  | concat p q ihp ihq =>
    obtain ⟨hp, hq⟩ := Bool.and_eq_true_iff.mp h
    exact (ihp hp).concat (ihq hq)
  | choice p q ihp ihq =>
    obtain ⟨hp, hq⟩ := Bool.and_eq_true_iff.mp h
    exact (ihp hp).choice (ihq hq)
  | repetition p least most lazy ih =>
    intro front cs j
    simp only [matches_repetition_iff, (ih h).rounds_iff]
    constructor
    · rintro ⟨n, hleast, hmost, run, rest, hcs, hrun, hj⟩
      exact ⟨run, rest, hcs, ⟨n, hleast, hmost, hrun⟩, hj⟩
    · rintro ⟨run, rest, hcs, ⟨n, hleast, hmost, hrun⟩, hj⟩
      exact ⟨n, hleast, hmost, run, rest, hcs, hrun, hj⟩

/-- The texts that patterns in a row cover. -/
def rowLanguage (ps : List Pattern) : Language Char := (ps.map language).prod

theorem rowLanguage_cons (p : Pattern) (ps : List Pattern) :
    rowLanguage (p :: ps) = p.language * rowLanguage ps := List.prod_cons

theorem rowLanguage_append (ps qs : List Pattern) :
    rowLanguage (ps ++ qs) = rowLanguage ps * rowLanguage qs := by
  rw [rowLanguage, List.map_append, List.prod_append]
  rfl

theorem language_concatAll (ps : List Pattern) : (concatAll ps).language = rowLanguage ps := by
  induction ps with
  | nil => rfl
  | cons p ps ih =>
    rw [rowLanguage_cons]
    cases ps with
    | nil => exact (mul_one p.language).symm
    | cons q qs =>
      rw [← ih]
      rfl

/-! ## What is in them -/

section Membership

variable {p q : Pattern} {ps : List Pattern} {cs : List Char} {set : CodePointSet} {least : Nat}
  {most : Option Nat} {lazy : Bool}

theorem mem_language_single {c : Char} :
    cs ∈ (Pattern.one (.single c)).language ↔ cs = [c] := by
  constructor
  · rintro ⟨d, rfl, hd⟩
    rw [contains_single.mp hd]
  · rintro rfl
    exact ⟨c, rfl, contains_single.mpr rfl⟩

theorem mem_rowLanguage_singleton : cs ∈ rowLanguage [p] ↔ cs ∈ p.language := by
  rw [rowLanguage, List.map_singleton, List.prod_singleton]

/-- A row covers what its first pattern covers, and behind that what the others cover. -/
theorem mem_rowLanguage_cons_cons :
    cs ∈ rowLanguage (p :: q :: ps) ↔
      ∃ a ∈ p.language, ∃ b ∈ rowLanguage (q :: ps), a ++ b = cs := by
  rw [rowLanguage_cons, Language.mem_mul]

/-- A repetition of a set covers runs of its characters. -/
theorem mem_language_run :
    cs ∈ (Pattern.repetition (.one set) least most lazy).language ↔
      (∀ c ∈ cs, set.contains c = true) ∧ least ≤ cs.length ∧ ∀ m ∈ most, cs.length ≤ m := by
  constructor
  · rintro ⟨n, hleast, hmost, hpow⟩
    obtain ⟨rfl, hcs⟩ := mem_letters_pow_iff.mp hpow
    exact ⟨hcs, hleast, hmost⟩
  · rintro ⟨hcs, hleast, hmost⟩
    exact ⟨cs.length, hleast, hmost, mem_letters_pow_iff.mpr ⟨rfl, hcs⟩⟩

/-- What may be left out covers the empty text as well. -/
theorem mem_language_optional :
    cs ∈ (Pattern.repetition p 0 (some 1) lazy).language ↔ cs = [] ∨ cs ∈ p.language := by
  constructor
  · rintro ⟨n, -, hmost, hpow⟩
    obtain rfl | rfl := Nat.le_one_iff_eq_zero_or_eq_one.mp (hmost 1 rfl)
    · exact .inl ((Language.mem_one cs).mp (pow_zero p.language ▸ hpow))
    · exact .inr (pow_one p.language ▸ hpow)
  · rintro (rfl | hcs)
    · exact ⟨0, le_rfl, by simp, by simp⟩
    · exact ⟨1, Nat.zero_le 1, by simp, by simpa using hcs⟩

/-- What may come any number of times covers the closure of its language. -/
theorem language_star : (Pattern.repetition p 0 none lazy).language = p.language∗ := by
  ext cs
  rw [Language.kstar_eq_iSup_pow, Language.mem_iSup]
  constructor
  · rintro ⟨n, -, -, hpow⟩
    exact ⟨n, hpow⟩
  · rintro ⟨n, hpow⟩
    exact ⟨n, Nat.zero_le n, by simp, hpow⟩

end Membership

/-! ## Between anchors -/

/-- Patterns in a row, from the start of the text to its end. -/
def row (ps : List Pattern) : Pattern :=
  concatAll (.assertion .textStart :: (ps ++ [.assertion .textEnd]))

/-- Behind a place, a row up to the end covers the texts of its language. -/
theorem matches_concatAll_end_iff {ps : List Pattern} (h : ∀ p ∈ ps, p.isPlaceless = true)
    {front cs : List Char} {j : Nat} :
    Matches (front ++ cs).toArray (concatAll (ps ++ [.assertion .textEnd])) front.length j ↔
      cs ∈ rowLanguage ps ∧ j = (front ++ cs).length := by
  -- on the row; what its first pattern covers then stands in front of the place
  induction ps generalizing front cs j with
  | nil =>
    rw [List.nil_append, concatAll, matches_end_iff, rowLanguage, List.map_nil, List.prod_nil,
      Language.mem_one]
    refine and_congr_right fun hcs => ?_
    rw [hcs, List.append_nil]
  | cons p ps ih =>
    obtain ⟨hp, hps⟩ := List.forall_mem_cons.mp h
    rw [List.cons_append, matches_concatAll_cons_iff, rowLanguage_cons, Language.mem_mul]
    simp only [spans_language hp front cs]
    constructor
    · rintro ⟨_, ⟨run, rest, rfl, hrun, rfl⟩, others⟩
      rw [← List.append_assoc] at others
      obtain ⟨hrest, rfl⟩ := (ih hps).mp others
      exact ⟨⟨run, hrun, rest, hrest, rfl⟩, by simp⟩
    · rintro ⟨⟨run, hrun, rest, hrest, rfl⟩, rfl⟩
      refine ⟨_, ⟨run, rest, rfl, hrun, rfl⟩, ?_⟩
      rw [← List.append_assoc]
      exact (ih hps).mpr ⟨hrest, rfl⟩

/-- A row between anchors occurs in the texts that it covers from end to end. -/
theorem occursIn_row_iff {ps : List Pattern} (wf : (row ps).WellFormed)
    (h : ∀ p ∈ ps, p.isPlaceless = true) {cs : List Char} :
    (row ps).occursIn cs = true ↔ cs ∈ rowLanguage ps := by
  have hbehind (j : Nat) : Matches cs.toArray (concatAll (ps ++ [.assertion .textEnd])) 0 j ↔
      cs ∈ rowLanguage ps ∧ j = cs.length := @matches_concatAll_end_iff ps h [] cs j
  rw [occursIn_iff wf]
  simp only [row, matches_concatAll_cons_iff]
  constructor
  · -- the first anchor leaves no other place to begin at
    rintro ⟨i, hi, j, k, hstart, others⟩
    obtain ⟨rfl, rfl⟩ := (matches_start_iff (by simpa using hi)).mp hstart
    exact ((hbehind j).mp others).1
  · intro hcs
    exact ⟨0, Nat.zero_le _, cs.length, 0, (matches_start_iff (Nat.zero_le _)).mpr ⟨rfl, rfl⟩,
      (hbehind _).mpr ⟨hcs, rfl⟩⟩

/-- A set occurs in the texts that have one of its characters. -/
theorem occursIn_one_iff {set : CodePointSet} {cs : List Char} :
    (Pattern.one set).occursIn cs = true ↔ ∃ c ∈ cs, set.contains c = true := by
  have wf : (Pattern.one set).WellFormed := trivial
  rw [occursIn_iff wf]
  constructor
  · rintro ⟨i, -, _, h⟩
    cases h with
    | one at_i mem => exact ⟨_, List.mem_of_getElem? (by simpa using at_i), mem⟩
  · rintro ⟨c, hc, mem⟩
    obtain ⟨i, hi, rfl⟩ := List.mem_iff_getElem.mp hc
    exact ⟨i, Nat.le_of_lt hi, i + 1, .one (by simp [hi]) mem⟩

end DocQuery.Pattern
