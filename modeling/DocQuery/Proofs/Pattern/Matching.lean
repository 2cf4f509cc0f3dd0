import Mathlib
import DocQuery.Pattern.Matching
import DocQuery.Store.Value

/-!
# What the Matcher Computes

`Pattern.advance` takes a set of places to a set of places.  This module shows that it follows
the relation `Pattern.Matches`: a place is reached exactly if the pattern covers the stretch up
to it from one of the given places.

A repetition is unfolded by its number of rounds.  `times` goes through the rounds that have to
be there.  `reach` goes through those that may be there, and it only follows places that are
new.  That loses nothing, because whatever the other places lead to has been seen.

## Main definitions

- `Rounds`: a relation a given number of times in a row
- `WellFormed`: no repetition asks for more rounds than it allows
- `Covers`: a pattern covers the whole text

## Main results

- `matches_repetition_iff`: a repetition covers what some allowed number of rounds covers
- `mem_advance_iff`: the matcher computes `Matches`
- `matchesAll_iff_covers`: the matcher decides `Covers`
-/

namespace DocQuery.Pattern

/-! ## Rounds -/

/-- `R` leads from `i` to `j` in exactly the given number of rounds. -/
inductive Rounds (R : Nat → Nat → Prop) : Nat → Nat → Nat → Prop where
  | none (i : Nat) : Rounds R 0 i i
  | more {n i j k : Nat} (first : R i j) (others : Rounds R n j k) : Rounds R (n + 1) i k

section Rounds

variable {R : Nat → Nat → Prop} {m n i j k : Nat}

@[simp] theorem rounds_zero_iff : Rounds R 0 i j ↔ i = j := by
  constructor
  · intro h
    cases h
    rfl
  · rintro rfl
    exact .none i

theorem rounds_succ_iff : Rounds R (n + 1) i k ↔ ∃ j, R i j ∧ Rounds R n j k := by
  constructor
  · intro h
    cases h with
    | more first others => exact ⟨_, first, others⟩
  · rintro ⟨j, first, others⟩
    exact .more first others

theorem rounds_add_iff : Rounds R (m + n) i k ↔ ∃ j, Rounds R m i j ∧ Rounds R n j k := by
  induction m generalizing i with
  | zero => simp
  | succ m ih =>
    rw [Nat.succ_add, rounds_succ_iff]
    constructor
    · rintro ⟨a, first, others⟩
      obtain ⟨j, before, after⟩ := ih.mp others
      exact ⟨j, .more first before, after⟩
    · rintro ⟨j, before, after⟩
      obtain ⟨a, first, others⟩ := rounds_succ_iff.mp before
      exact ⟨a, first, ih.mpr ⟨j, others, after⟩⟩

/-- A set of places that `R` does not leave is not left in any number of rounds. -/
theorem Rounds.mem_of_closed {s : List Nat} (h : Rounds R n i j)
    (closed : ∀ a ∈ s, ∀ b, R a b → b ∈ s) (hi : i ∈ s) : j ∈ s := by
  induction h with
  | none i => exact hi
  | more first _ ih => exact ih (closed _ hi _ first)

end Rounds

/-! ## Sets of places -/

section Places

variable {f : List Nat → List Nat} {R : Nat → Nat → Prop}

theorem times_eq_iterate (f : List Nat → List Nat) (n : Nat) (s : List Nat) :
    times f n s = f^[n] s := by
  induction n generalizing s with
  | zero => rfl
  | succ n ih =>
    simp only [times, beq_iff_eq, ih, Function.iterate_succ_apply]
    split
    next h => rw [h, Function.iterate_fixed h]
    next => rfl

theorem mem_times_iff (hf : ∀ s j, j ∈ f s ↔ ∃ i ∈ s, R i j) (n : Nat) (s : List Nat) (j : Nat) :
    j ∈ times f n s ↔ ∃ i ∈ s, Rounds R n i j := by
  rw [times_eq_iterate]
  induction n generalizing s with
  | zero => simp
  | succ n ih =>
    simp only [Function.iterate_succ_apply, ih, hf, rounds_succ_iff]
    constructor
    · rintro ⟨a, ⟨i, hi, first⟩, others⟩
      exact ⟨i, hi, a, first, others⟩
    · rintro ⟨i, hi, a, first, others⟩
      exact ⟨a, ⟨i, hi, first⟩, others⟩

/-- What the seen places lead to has been seen as well, unless it lies behind a fresh one. -/
def ClosedBut (R : Nat → Nat → Prop) (fresh seen : List Nat) : Prop :=
  ∀ i ∈ seen, i ∉ fresh → ∀ j, R i j → j ∈ seen

/-- The places that `reach` goes on from: those behind the fresh ones that are new. -/
def newPlaces (f : List Nat → List Nat) (fresh seen : List Nat) : List Nat :=
  (f fresh).filter (!seen.contains ·)

theorem mem_newPlaces {fresh seen : List Nat} {j : Nat} :
    j ∈ newPlaces f fresh seen ↔ j ∈ f fresh ∧ j ∉ seen := by
  simp [newPlaces]

/-- `reach` goes on in one of two ways. -/
theorem reach_succ (f : List Nat → List Nat) (n : Nat) (fresh seen : List Nat) :
    reach f (n + 1) fresh seen =
      if newPlaces f fresh seen = [] then seen
      else reach f n (newPlaces f fresh seen) (seen ++ newPlaces f fresh seen) := by
  simp only [reach, newPlaces]
  split <;> simp_all

/-- One round from a seen place leads to a seen place or to a new one. -/
theorem ClosedBut.mem_or_mem_newPlaces {fresh seen : List Nat} {i j : Nat}
    (hf : ∀ s j, j ∈ f s ↔ ∃ i ∈ s, R i j) (closed : ClosedBut R fresh seen) (hi : i ∈ seen)
    (h : R i j) : j ∈ seen ∨ j ∈ newPlaces f fresh seen := by
  by_cases seen_j : j ∈ seen
  · exact .inl seen_j
  · refine .inr (mem_newPlaces.mpr ⟨(hf _ _).mpr ⟨i, ?_, h⟩, seen_j⟩)
    by_contra not_fresh
    exact seen_j (closed i hi not_fresh j h)

theorem ClosedBut.append {fresh seen : List Nat} (hf : ∀ s j, j ∈ f s ↔ ∃ i ∈ s, R i j)
    (closed : ClosedBut R fresh seen) :
    ClosedBut R (newPlaces f fresh seen) (seen ++ newPlaces f fresh seen) := by
  intro i hi not_new j h
  rw [List.mem_append] at hi ⊢
  exact closed.mem_or_mem_newPlaces hf (hi.resolve_right not_new) h

/-- Where nothing is new, all that can be reached has been seen. -/
theorem ClosedBut.of_newPlaces_eq_nil {fresh seen : List Nat}
    (hf : ∀ s j, j ∈ f s ↔ ∃ i ∈ s, R i j) (closed : ClosedBut R fresh seen)
    (nothing : newPlaces f fresh seen = []) : ∀ i ∈ seen, ∀ j, R i j → j ∈ seen := by
  intro i hi j h
  simpa [nothing] using closed.mem_or_mem_newPlaces hf hi h

/-- `reach` finds what the seen places lead to in at most `n` rounds. -/
theorem mem_reach_iff (hf : ∀ s j, j ∈ f s ↔ ∃ i ∈ s, R i j) (n : Nat) {fresh seen : List Nat}
    (sub : fresh ⊆ seen) (closed : ClosedBut R fresh seen) (j : Nat) :
    j ∈ reach f n fresh seen ↔ ∃ m ≤ n, ∃ i ∈ seen, Rounds R m i j := by
  induction n generalizing fresh seen with
  | zero => simp [reach]
  | succ n ih =>
    rw [reach_succ]
    split
    -- nothing new was found, so rounds lead nowhere else
    next nothing =>
      constructor
      · intro hj
        exact ⟨0, Nat.zero_le _, j, hj, .none j⟩
      · rintro ⟨m, -, i, hi, rounds⟩
        exact rounds.mem_of_closed (closed.of_newPlaces_eq_nil hf nothing) hi
    next =>
      -- a round leads to a place seen before or to a new one, from which one round less is needed
      rw [ih (List.subset_append_right _ _) (closed.append hf)]
      constructor
      · rintro ⟨m, hm, i, hi, rounds⟩
        obtain hi | hi := List.mem_append.mp hi
        · exact ⟨m, by omega, i, hi, rounds⟩
        · obtain ⟨a, ha, first⟩ := (hf _ _).mp (mem_newPlaces.mp hi).1
          exact ⟨m + 1, by omega, a, sub ha, .more first rounds⟩
      · rintro ⟨m, hm, i, hi, rounds⟩
        cases rounds with
        | none => exact ⟨0, Nat.zero_le _, j, List.mem_append_left _ hi, .none j⟩
        | more first others =>
          have hj := List.mem_append.mpr (closed.mem_or_mem_newPlaces hf hi first)
          exact ⟨_, by omega, _, hj, others⟩

/-- If all new places lie within `size`, then so many rounds are enough as there are places
that have not been seen. -/
theorem reach_closed {size : Nat} (hf : ∀ s j, j ∈ f s ↔ ∃ i ∈ s, R i j)
    (within : ∀ i j, R i j → j = i ∨ j ≤ size) (n : Nat) {fresh seen : List Nat}
    (sub : fresh ⊆ seen) (closed : ClosedBut R fresh seen)
    (enough : (List.range (size + 1)).countP (fun i => i ∉ seen) ≤ n) :
    ∀ i ∈ reach f n fresh seen, ∀ j, R i j → j ∈ reach f n fresh seen := by
  induction n generalizing fresh seen with
  | zero =>
    intro i hi j h
    obtain rfl | hj := within i j h
    · exact hi
    · have := List.countP_eq_zero.mp (Nat.le_zero.mp enough) j (List.mem_range.mpr (by omega))
      simpa [reach] using this
  | succ n ih =>
    rw [reach_succ]
    split
    next nothing => exact closed.of_newPlaces_eq_nil hf nothing
    next something =>
      refine ih (List.subset_append_right _ _) (closed.append hf) (Nat.le_of_lt_succ ?_)
      -- A new place is one of those that were counted.
      obtain ⟨j, hj⟩ := List.exists_mem_of_ne_nil _ something
      obtain ⟨i, hi, h⟩ := (hf _ _).mp (mem_newPlaces.mp hj).1
      have new := (mem_newPlaces.mp hj).2
      have hj_le : j ≤ size := by
        obtain rfl | hj_le := within i j h
        · exact absurd (sub hi) new
        · exact hj_le
      refine Nat.lt_of_lt_of_le ?_ enough
      refine Store.countP_lt_countP (a := j) ?_ (List.mem_range.mpr (by omega)) ?_ ?_
      · simp +contextual
      · simpa using fun _ => hj
      · simpa using new

end Places

/-! ## Repetitions -/

section Repetition

variable {text : Array Char} {p : Pattern} {least : Nat} {most : Option Nat} {lazy : Bool}
  {i j : Nat}

theorem exists_rounds_of_matches (h : Matches text (.repetition p least most lazy) i j) :
    ∃ n, least ≤ n ∧ (∀ m ∈ most, n ≤ m) ∧ Rounds (Matches text p) n i j := by
  generalize hq : Pattern.repetition p least most lazy = q at h
  induction h generalizing least most with
  | done i =>
    cases hq
    exact ⟨0, Nat.le_refl _, by simp, .none i⟩
  | again room first _ _ ih =>
    cases hq
    obtain ⟨n, hleast, hmost, rounds⟩ := ih rfl
    refine ⟨n + 1, by omega, fun m hm => ?_, .more first rounds⟩
    have : m ≠ 0 := by
      rintro rfl
      exact room hm
    have := hmost (m - 1) (by simp [Option.mem_def.mp hm])
    omega
  | _ => cases hq

theorem matches_of_rounds {n : Nat} (hleast : least ≤ n) (hmost : ∀ m ∈ most, n ≤ m)
    (h : Rounds (Matches text p) n i j) : Matches text (.repetition p least most lazy) i j := by
  induction h generalizing least most with
  | none i =>
    obtain rfl := Nat.le_zero.mp hleast
    exact .done i
  | more first _ ih =>
    refine .again ?_ first (ih (by omega) fun m hm => ?_)
    · rintro rfl
      exact absurd (hmost 0 rfl) (by omega)
    · obtain ⟨k, hk, rfl⟩ := Option.map_eq_some_iff.mp hm
      have := hmost k hk
      omega

/-- A repetition covers what an allowed number of rounds covers. -/
theorem matches_repetition_iff :
    Matches text (.repetition p least most lazy) i j ↔
      ∃ n, least ≤ n ∧ (∀ m ∈ most, n ≤ m) ∧ Rounds (Matches text p) n i j :=
  ⟨exists_rounds_of_matches, fun ⟨_, hleast, hmost, h⟩ => matches_of_rounds hleast hmost h⟩

end Repetition

/-! ## The matcher -/

/-- No repetition in the pattern asks for more rounds than it allows. -/
def WellFormed : Pattern → Prop
  | group _ p => p.WellFormed
  | concat p q | choice p q => p.WellFormed ∧ q.WellFormed
  | repetition p least most _ => (∀ m ∈ most, least ≤ m) ∧ p.WellFormed
  | empty | one _ | assertion _ => True

/-- A stretch that is not empty ends within the text. -/
theorem Matches.eq_or_le_size {text : Array Char} {p : Pattern} {i j : Nat}
    (h : Matches text p i j) : j = i ∨ j ≤ text.size := by
  induction h with
  | empty | assertion | done => exact .inl rfl
  | one at_i =>
    have := (Array.getElem?_eq_some_iff.mp at_i).1
    exact .inr (by omega)
  | group _ ih | left _ ih | right _ ih => exact ih
  | concat _ _ ih₁ ih₂ | again _ _ _ ih₁ ih₂ => omega

theorem mem_upTo_iff {f : List Nat → List Nat} {R : Nat → Nat → Prop}
    (hf : ∀ s j, j ∈ f s ↔ ∃ i ∈ s, R i j) (n : Nat) (s : List Nat) (j : Nat) :
    j ∈ upTo f n s ↔ ∃ m ≤ n, ∃ i ∈ s, Rounds R m i j :=
  mem_reach_iff hf n (List.Subset.refl s) (fun _ hi not_fresh => absurd hi not_fresh) j

/-- One more round than the text has characters is enough for any number of rounds. -/
theorem mem_upTo_size_iff {f : List Nat → List Nat} {R : Nat → Nat → Prop} {size : Nat}
    (hf : ∀ s j, j ∈ f s ↔ ∃ i ∈ s, R i j) (within : ∀ i j, R i j → j = i ∨ j ≤ size)
    (s : List Nat) (j : Nat) :
    j ∈ upTo f (size + 1) s ↔ ∃ m, ∃ i ∈ s, Rounds R m i j := by
  constructor
  · intro hj
    obtain ⟨m, -, h⟩ := (mem_upTo_iff hf _ s j).mp hj
    exact ⟨m, h⟩
  · rintro ⟨m, i, hi, rounds⟩
    have closed : ClosedBut R s s := fun _ hi not_fresh => absurd hi not_fresh
    have enough : (List.range (size + 1)).countP (fun i => i ∉ s) ≤ size + 1 := by
      simpa using List.countP_le_length (p := fun i => decide (i ∉ s)) (l := List.range (size + 1))
    refine rounds.mem_of_closed (reach_closed hf within _ (List.Subset.refl s) closed enough) ?_
    exact (mem_upTo_iff hf _ s i).mpr ⟨0, Nat.zero_le _, i, hi, .none i⟩

/-- The least number of rounds comes first, then any number of further ones that is allowed. -/
theorem mem_advance_repetition_iff {text : Array Char} {p : Pattern} {least : Nat}
    {most : Option Nat} {lazy : Bool} (hle : ∀ m ∈ most, least ≤ m)
    (hp : ∀ s j, j ∈ advance text p s ↔ ∃ i ∈ s, Matches text p i j) (s : List Nat) (j : Nat) :
    j ∈ advance text (.repetition p least most lazy) s ↔
      ∃ i ∈ s, Matches text (.repetition p least most lazy) i j := by
  simp only [matches_repetition_iff]
  cases most with
  | none =>
    simp only [advance, mem_upTo_size_iff hp fun _ _ => Matches.eq_or_le_size, mem_times_iff hp]
    constructor
    · rintro ⟨m, k, ⟨i, hi, before⟩, after⟩
      exact ⟨i, hi, least + m, by omega, by simp, rounds_add_iff.mpr ⟨k, before, after⟩⟩
    · rintro ⟨i, hi, n, hleast, -, rounds⟩
      obtain ⟨m, rfl⟩ := Nat.exists_eq_add_of_le hleast
      obtain ⟨k, before, after⟩ := rounds_add_iff.mp rounds
      exact ⟨m, k, ⟨i, hi, before⟩, after⟩
  | some most =>
    have hle : least ≤ most := hle most rfl
    simp only [advance, mem_upTo_iff hp, mem_times_iff hp, Option.mem_some_iff, forall_eq']
    constructor
    · rintro ⟨m, hm, k, ⟨i, hi, before⟩, after⟩
      exact ⟨i, hi, least + m, by omega, by omega, rounds_add_iff.mpr ⟨k, before, after⟩⟩
    · rintro ⟨i, hi, n, hleast, hmost, rounds⟩
      obtain ⟨m, rfl⟩ := Nat.exists_eq_add_of_le hleast
      obtain ⟨k, before, after⟩ := rounds_add_iff.mp rounds
      exact ⟨m, by omega, k, ⟨i, hi, before⟩, after⟩

/-- The matcher reaches exactly the places up to which the pattern covers the text. -/
theorem mem_advance_iff {text : Array Char} {p : Pattern} (wf : p.WellFormed) (s : List Nat)
    (j : Nat) : j ∈ advance text p s ↔ ∃ i ∈ s, Matches text p i j := by
  -- on the pattern; the places grow, as the second half of a pair starts where the first one ends
  induction p generalizing s j with
  | empty =>
    constructor
    · intro hj
      exact ⟨j, hj, .empty j⟩
    · rintro ⟨i, hi, ⟨⟩⟩
      exact hi
  | one set =>
    simp only [advance, List.mem_map, List.mem_filter, Option.any_eq_true]
    constructor
    · rintro ⟨i, ⟨hi, c, at_i, mem⟩, rfl⟩
      exact ⟨i, hi, .one at_i mem⟩
    · rintro ⟨i, hi, ⟨⟩⟩
      exact ⟨i, ⟨hi, _, ‹_›, ‹_›⟩, rfl⟩
  | assertion a =>
    simp only [advance, List.mem_filter]
    constructor
    · rintro ⟨hj, holds⟩
      exact ⟨j, hj, .assertion holds⟩
    · rintro ⟨i, hi, ⟨⟩⟩
      exact ⟨hi, ‹_›⟩
  | group number p ih =>
    simp only [advance, ih wf]
    refine exists_congr fun i => and_congr_right fun _ => ⟨.group, ?_⟩
    rintro ⟨⟩
    assumption
  | concat p q ihp ihq =>
    -- the place in between is one that the first half reaches
    simp only [advance_concat, ihq wf.2, ihp wf.1]
    constructor
    · rintro ⟨k, ⟨i, hi, left⟩, right⟩
      exact ⟨i, hi, .concat left right⟩
    · rintro ⟨i, hi, ⟨⟩⟩
      exact ⟨_, ⟨i, hi, ‹_›⟩, ‹_›⟩
  | choice p q ihp ihq =>
    simp only [mem_advance_choice, ihp wf.1, ihq wf.2]
    constructor
    · rintro (⟨i, hi, h⟩ | ⟨i, hi, h⟩)
      · exact ⟨i, hi, .left h⟩
      · exact ⟨i, hi, .right h⟩
    · rintro ⟨i, hi, ⟨⟩⟩
      · exact .inl ⟨i, hi, ‹_›⟩
      · exact .inr ⟨i, hi, ‹_›⟩
  -- the rounds need an induction of their own, since each starts where another one ends
  | repetition p least most lazy ih => exact mem_advance_repetition_iff wf.1 (ih wf.2) s j

/-- The pattern covers the text from its start to its end. -/
def Covers (p : Pattern) (text : List Char) : Prop := Matches text.toArray p 0 text.length

theorem matchesAll_iff_covers {p : Pattern} (wf : p.WellFormed) (text : List Char) :
    p.matchesAll text = true ↔ p.Covers text := by
  simp [matchesAll, mem_advance_iff wf, Covers]

/-- A pattern occurs in a text if it covers a stretch that starts within the text. -/
theorem occursIn_iff {p : Pattern} (wf : p.WellFormed) (text : List Char) :
    p.occursIn text = true ↔ ∃ i ≤ text.length, ∃ j, Matches text.toArray p i j := by
  simp only [occursIn, Bool.not_eq_true', List.isEmpty_eq_false_iff_exists_mem,
    mem_advance_iff wf, List.size_toArray, List.mem_range, Nat.lt_succ_iff]
  constructor
  · rintro ⟨j, i, hi, h⟩
    exact ⟨i, hi, j, h⟩
  · rintro ⟨i, hi, j, h⟩
    exact ⟨j, i, hi, h⟩

end DocQuery.Pattern
