import Mathlib
import DocQuery.Proofs.Pattern.Enclosing

/-!
# Patterns in a Row

A pattern speaks of places in a text.  Where what stands in front of a place does not matter, it is
easier to speak of the text behind it, and to go on behind what a pattern has covered.  This module
says in these terms what a set of characters covers, what a repetition of one covers, and what
patterns in a row cover.

## Main definitions

- `Spans`: the pattern covers the texts of a language, wherever they stand

## Main statements

- `Spans.rounds_iff`: so many rounds cover so many texts of the language
- `matches_one_iff`, `matches_run_iff`, `matches_end_iff`: what covers the text behind a place
- `matches_concatAll_cons_iff`: one pattern, and the others behind it
- `matches_one_concatAll_iff`, `matches_run_concatAll_iff`: the others go on behind what is taken
-/

namespace DocQuery.Pattern

open DocQuery.Text

variable {front cs : List Char} {set : CodePointSet} {least n j : Nat} {most : Option Nat}
  {lazy : Bool}

/-- The set of one character holds that character only. -/
theorem contains_single {c d : Char} : (CodePointSet.single c).contains d = true ↔ d = c := by
  simp only [CodePointSet.contains, CodePointSet.holds, CodePointSet.single,
    CodePointSet.containsFrom]
  rw [← Char.toNat_inj]
  split_ifs <;> simp <;> omega

theorem getElem?_length_append (front cs : List Char) :
    (front ++ cs).toArray[front.length]? = cs.head? := by
  rw [List.getElem?_toArray, List.getElem?_append_right (Nat.le_refl _), Nat.sub_self,
    List.head?_eq_getElem?]

/-- A set covers the next character, if it holds that. -/
theorem matches_one_iff :
    Matches (front ++ cs).toArray (.one set) front.length j ↔
      ∃ c rest, cs = c :: rest ∧ set.contains c = true ∧ j = (front ++ [c]).length := by
  constructor
  · intro h
    cases h with
    | one at_i mem =>
      rw [getElem?_length_append, List.head?_eq_some_iff] at at_i
      obtain ⟨rest, rfl⟩ := at_i
      exact ⟨_, rest, rfl, mem, by simp⟩
  · rintro ⟨c, rest, rfl, mem, rfl⟩
    rw [List.length_append, List.length_singleton]
    exact .one (by rw [getElem?_length_append, List.head?_cons]) mem

/-- The pattern covers the texts of a language, wherever they stand. -/
def Spans (p : Pattern) (L : Language Char) : Prop :=
  ∀ front cs j, Matches (front ++ cs).toArray p front.length j ↔
    ∃ run rest, cs = run ++ rest ∧ run ∈ L ∧ j = (front ++ run).length

/-- So many rounds of a pattern cover as many texts of its language in a row. -/
theorem Spans.rounds_iff {p : Pattern} {L : Language Char} (hp : p.Spans L) :
    Rounds (Matches (front ++ cs).toArray p) n front.length j ↔
      ∃ run rest, cs = run ++ rest ∧ run ∈ L ^ n ∧ j = (front ++ run).length := by
  -- on the number of rounds; what a round covers then stands in front of the place
  induction n generalizing front cs with
  | zero =>
    rw [rounds_zero_iff, pow_zero]
    constructor
    · rintro rfl
      exact ⟨[], cs, rfl, rfl, by rw [List.append_nil]⟩
    · rintro ⟨run, rest, -, hrun, rfl⟩
      rw [(Language.mem_one run).mp hrun, List.append_nil]
  | succ n ih =>
    simp only [rounds_succ_iff, hp front cs, pow_succ', Language.mem_mul]
    constructor
    · rintro ⟨_, ⟨first, rest, rfl, hfirst, rfl⟩, others⟩
      rw [← List.append_assoc] at others
      obtain ⟨run, rest, rfl, hrun, rfl⟩ := ih.mp others
      exact ⟨first ++ run, rest, by simp, ⟨first, hfirst, run, hrun, rfl⟩, by simp⟩
    · rintro ⟨_, rest, rfl, ⟨first, hfirst, run, hrun, rfl⟩, rfl⟩
      refine ⟨_, ⟨first, run ++ rest, by simp, hfirst, rfl⟩, ?_⟩
      rw [List.append_assoc, ← List.append_assoc]
      exact ih.mpr ⟨run, rest, rfl, hrun, by simp⟩

/-- The texts of one character that a set holds. -/
def letters (set : CodePointSet) : Language Char := {cs | ∃ c, cs = [c] ∧ set.contains c = true}

theorem spans_one (set : CodePointSet) : (Pattern.one set).Spans (letters set) := by
  intro front cs j
  rw [matches_one_iff]
  constructor
  · rintro ⟨c, rest, rfl, mem, rfl⟩
    exact ⟨[c], rest, rfl, ⟨c, rfl, mem⟩, rfl⟩
  · rintro ⟨_, rest, rfl, ⟨c, rfl, mem⟩, rfl⟩
    exact ⟨c, rest, rfl, mem, rfl⟩

/-- So many letters in a row are a text of that length. -/
theorem mem_letters_pow_iff {run : List Char} :
    run ∈ letters set ^ n ↔ run.length = n ∧ ∀ c ∈ run, set.contains c = true := by
  induction n generalizing run with
  | zero =>
    rw [pow_zero, Language.mem_one, List.length_eq_zero_iff]
    exact ⟨fun hrun => ⟨hrun, hrun ▸ List.forall_mem_nil _⟩, And.left⟩
  | succ n ih =>
    rw [pow_succ', Language.mem_mul]
    constructor
    · rintro ⟨_, ⟨c, rfl, mem⟩, run, hpow, rfl⟩
      obtain ⟨hlength, hrun⟩ := ih.mp hpow
      exact ⟨congrArg Nat.succ hlength, List.forall_mem_cons.mpr ⟨mem, hrun⟩⟩
    · rintro ⟨hlength, hrun⟩
      obtain ⟨c, run, rfl⟩ := List.exists_cons_of_length_eq_add_one hlength
      obtain ⟨mem, hrun⟩ := List.forall_mem_cons.mp hrun
      exact ⟨[c], ⟨c, rfl, mem⟩, run, ih.mpr ⟨Nat.succ.inj hlength, hrun⟩, rfl⟩

/-- A repetition of a set covers a run of characters that it holds. -/
theorem matches_run_iff :
    Matches (front ++ cs).toArray (.repetition (.one set) least most lazy) front.length j ↔
      ∃ run rest, cs = run ++ rest ∧ (∀ c ∈ run, set.contains c = true) ∧ least ≤ run.length ∧
        (∀ m ∈ most, run.length ≤ m) ∧ j = (front ++ run).length := by
  simp only [matches_repetition_iff, (spans_one set).rounds_iff, mem_letters_pow_iff]
  constructor
  · rintro ⟨_, hleast, hmost, run, rest, hcs, ⟨rfl, hrun⟩, hj⟩
    exact ⟨run, rest, hcs, hrun, hleast, hmost, hj⟩
  · rintro ⟨run, rest, hcs, hrun, hleast, hmost, hj⟩
    exact ⟨run.length, hleast, hmost, run, rest, hcs, ⟨rfl, hrun⟩, hj⟩

/-- The end of the text has nothing behind it. -/
theorem matches_end_iff :
    Matches (front ++ cs).toArray (.assertion .textEnd) front.length j ↔
      cs = [] ∧ j = front.length := by
  constructor
  · intro h
    cases h with
    | assertion holds =>
      rw [getElem?_length_append] at holds
      simpa [Assertion.holds] using holds
  · rintro ⟨rfl, rfl⟩
    exact .assertion (by rw [getElem?_length_append]; rfl)

/-! ## In a row -/

section Row

variable {text : Array Char} {p q : Pattern} {i k : Nat}

/-- The start of the text is its first place. -/
theorem matches_start_iff (hi : i ≤ text.size) :
    Matches text (.assertion .textStart) i k ↔ i = 0 ∧ k = 0 := by
  constructor
  · intro h
    cases h with
    | assertion holds =>
      obtain rfl := (before_isNone_iff hi).mp holds
      exact ⟨rfl, rfl⟩
  · rintro ⟨rfl, rfl⟩
    exact .assertion ((before_isNone_iff hi).mpr rfl)

theorem matches_concat_iff :
    Matches text (.concat p q) i k ↔ ∃ j, Matches text p i j ∧ Matches text q j k := by
  constructor
  · intro h
    cases h with
    | concat left right => exact ⟨_, left, right⟩
  · rintro ⟨j, left, right⟩
    exact .concat left right

theorem matches_empty_iff : Matches text .empty i k ↔ i = k := by
  constructor
  · intro h
    cases h
    rfl
  · rintro rfl
    exact .empty i

/-- Patterns in a row cover what the first one covers, and behind that what the others cover. -/
theorem matches_concatAll_cons_iff (p : Pattern) (ps : List Pattern) :
    Matches text (concatAll (p :: ps)) i k ↔
      ∃ j, Matches text p i j ∧ Matches text (concatAll ps) j k := by
  cases ps with
  | nil => simp [concatAll, matches_empty_iff]
  | cons q qs => exact matches_concat_iff

end Row

section Rest

variable {ps : List Pattern} {k : Nat}

/-- A set in front of a row takes a character, and the row goes on behind it. -/
theorem matches_one_concatAll_iff :
    Matches (front ++ cs).toArray (concatAll (.one set :: ps)) front.length k ↔
      ∃ c rest, cs = c :: rest ∧ set.contains c = true ∧
        Matches ((front ++ [c]) ++ rest).toArray (concatAll ps) (front ++ [c]).length k := by
  simp only [matches_concatAll_cons_iff, matches_one_iff]
  constructor
  · rintro ⟨_, ⟨c, rest, rfl, mem, rfl⟩, others⟩
    rw [List.append_cons] at others
    exact ⟨c, rest, rfl, mem, others⟩
  · rintro ⟨c, rest, rfl, mem, others⟩
    rw [← List.append_cons] at others
    exact ⟨_, ⟨c, rest, rfl, mem, rfl⟩, others⟩

/-- A repetition of a set in front of a row takes a run, and the row goes on behind it. -/
theorem matches_run_concatAll_iff :
    Matches (front ++ cs).toArray (concatAll (.repetition (.one set) least most lazy :: ps))
        front.length k ↔
      ∃ run rest, cs = run ++ rest ∧ (∀ c ∈ run, set.contains c = true) ∧ least ≤ run.length ∧
        (∀ m ∈ most, run.length ≤ m) ∧
        Matches ((front ++ run) ++ rest).toArray (concatAll ps) (front ++ run).length k := by
  simp only [matches_concatAll_cons_iff, matches_run_iff]
  constructor
  · rintro ⟨_, ⟨run, rest, rfl, hrun, hleast, hmost, rfl⟩, others⟩
    rw [← List.append_assoc] at others
    exact ⟨run, rest, rfl, hrun, hleast, hmost, others⟩
  · rintro ⟨run, rest, rfl, hrun, hleast, hmost, others⟩
    rw [List.append_assoc] at others
    exact ⟨_, ⟨run, rest, rfl, hrun, hleast, hmost, rfl⟩, others⟩

end Rest

end DocQuery.Pattern
