import Mathlib
import DocQuery.Proofs.Path.BracketCovering

/-!
# Classifying by Patterns

The rules are tried in a fixed order, and the first one that fits counts.  They are meant as
patterns, and this module shows that a fragment is classified by the first pattern that matches it,
and read as a segment of that kind.

The patterns overlap.  That for brackets has an alternative for clauses in parentheses, which would
be read as filters, but the pattern for filters takes all of them before.

## Main statements

- `SegmentKind.matches?_eq`: each rule fits the fragments that its pattern matches
- `classify_first_match`: the kind of a fragment, and the kind of its segment
-/

namespace DocQuery.Path

open DocQuery.Text DocQuery.Pattern

variable {cs : List Char}

/-! ## The rules -/

/-- Each rule fits exactly the fragments that it matches as it is written. -/
theorem SegmentKind.matches?_eq (k : SegmentKind) (cs : List Char) :
    k.matches? cs = some (k.fits cs) := by
  cases k with
  | plain =>
    have hrule : ⟨plainSource, row plainParts, 9⟩ ∈ writtenRules := by simp [writtenRules]
    exact occurs?_row hrule (by decide) mem_plainParts_iff
  | glob =>
    have hrule : ⟨globSource, row globParts, 4⟩ ∈ writtenRules := by simp [writtenRules]
    have hword : ⟨wordSource, .one word, 0⟩ ∈ writtenRules := by simp [writtenRules]
    have hany : occurs? wordSource cs = some (cs.any isWord) := by
      rw [occurs?, read?_of_mem_writtenRules hword, Option.map_some, Option.some.injEq,
        Bool.eq_iff_iff, occursIn_one_iff, List.any_eq_true]
      rfl
    rw [matches?, hany, occurs?_row hrule (by decide) mem_globParts_iff]
    rfl
  | filter =>
    have hrule : ⟨filterSource, row filterParts, 2⟩ ∈ writtenRules := by simp [writtenRules]
    exact occurs?_row hrule (by decide) mem_filterParts_iff
  | descendant =>
    have hrule : ⟨descendantSource, row descendantParts, 12⟩ ∈ writtenRules := by
      simp [writtenRules]
    exact occurs?_row hrule (by decide) mem_descendantParts_iff
  | array =>
    have hrule : ⟨arraySource, row (bracketParts bodyPattern), 9⟩ ∈ writtenRules := by
      simp [writtenRules]
    refine occurs?_row hrule (by decide) ?_
    rw [mem_bracket_iff, fits, isSome_ofBracket?_iff]
    simp only [mem_bodyPattern_iff]
  | unrecognized => rfl

/-! ## The segment of a fragment -/

/-- A fragment that is recognized is classified by the first rule that fits. -/
theorem find?_of_classify {k : SegmentKind} (h : classify cs = k) (hk : k ≠ .unrecognized) :
    SegmentKind.priority.find? (·.fits cs) = some k := by
  rw [classify_eq_find?] at h
  cases hfind : SegmentKind.priority.find? (·.fits cs) with
  | none =>
    rw [hfind] at h
    exact absurd h.symm hk
  | some j =>
    rw [hfind] at h
    exact congrArg some h

/-- A fragment is not recognized if no rule fits. -/
theorem classify_eq_unrecognized_iff :
    classify cs = .unrecognized ↔ ∀ k : SegmentKind, k.fits cs = false := by
  rw [classify_eq_find?]
  constructor
  · intro h k
    cases hfind : SegmentKind.priority.find? (·.fits cs) with
    | none =>
      by_cases hk : k = .unrecognized
      · rw [hk]
        rfl
      · simpa using List.find?_eq_none.mp hfind k ((SegmentKind.mem_priority k).mpr hk)
    | some j =>
      rw [hfind, Option.getD_some] at h
      have hj := (SegmentKind.mem_priority j).mp (List.mem_of_find?_eq_some hfind)
      exact absurd h hj
  · intro h
    rw [List.find?_eq_none.mpr fun k _ => by simp [h k], Option.getD_none]

/-- The rule for filters fits each clause in brackets. -/
theorem isFilter_bracket_of_isClause {body : List Char} (h : isClause body = true) :
    isFilter (bracket body) = true := by
  obtain ⟨mark, middle, rfl, hmark, hline, -⟩ := isClause_iff.mp h
  refine isFilter_bracket ?_ hline
  rcases hmark with rfl | rfl <;> decide

/-- What is classified by the rule for brackets holds no clause. -/
theorem isClause_of_classify {body : List Char} (h : classify (bracket body) = .array) :
    isClause body = false := by
  have hfind := find?_of_classify h (by decide)
  by_contra hclause
  have hfilter := isFilter_bracket_of_isClause (Bool.eq_true_of_not_eq_false hclause)
  simp [SegmentKind.priority, SegmentKind.fits, isNames_bracket, isGlob_bracket, hfilter] at hfind

/-- All that brackets may hold but a clause is read as a selector. -/
theorem kind_segment_of_ofBody? {body : List Char} {form : ArrayForm}
    (hclause : isClause body = false) (h : ArrayForm.ofBody? body = some form) :
    form.segment.kind = .array := by
  rw [ArrayForm.ofBody?, hclause, if_neg Bool.false_ne_true] at h
  split_ifs at h
  · obtain rfl := Option.some.inj h
    rfl
  · obtain rfl := Option.some.inj h
    rfl
  · obtain ⟨key, -, rfl⟩ := Option.map_eq_some_iff.mp h
    rfl

/-- A segment has the kind that its fragment is classified as. -/
theorem kind_segmentOf (cs : List Char) : (segmentOf cs).kind = classify cs := by
  unfold segmentOf
  split
  · next h => exact h.symm
  · next h => exact h.symm
  · next h => exact h.symm
  · next h =>
    rw [h]
    split <;> rfl
  · next h =>
    have hfits := List.find?_some (find?_of_classify h (by decide))
    obtain ⟨body, rfl, hbody⟩ := isSome_ofBracket?_iff.mp hfits
    obtain ⟨form, hform⟩ := Option.isSome_iff_exists.mp hbody
    have hbracket : ArrayForm.ofBracket? (bracket body) = some form := by
      rw [ArrayForm.ofBracket?, bracket, stripEnds?_concat, Option.bind_some, hform]
    rw [hbracket, h]
    exact kind_segment_of_ofBody? (isClause_of_classify h) hform
  · next h => exact h.symm

/-- A fragment is classified by the first pattern that matches it, in the order of the kinds, and is
not recognized if none does.  Its segment is of that kind.  Where the pattern for brackets is the
first, its alternative for clauses does not match. -/
theorem classify_first_match (fragment : String) :
    (∀ k : SegmentKind, (k.matches? fragment.toList).isSome = true) ∧
    classify fragment.toList =
      (SegmentKind.priority.find? (·.matches? fragment.toList == some true)).getD .unrecognized ∧
    (classify fragment.toList = .unrecognized ↔
      ∀ k : SegmentKind, k.matches? fragment.toList = some false) ∧
    (segment fragment).kind = classify fragment.toList ∧
    (classify fragment.toList = .array →
      occurs? clauseOnlySource fragment.toList = some false) := by
  have hfits (k : SegmentKind) :
      (k.matches? fragment.toList == some true) = k.fits fragment.toList := by
    rw [k.matches?_eq]
    cases k.fits fragment.toList <;> rfl
  refine ⟨fun k => ?_, ?_, ?_, kind_segmentOf _, fun h => ?_⟩
  · rw [k.matches?_eq]
    rfl
  · rw [classify_eq_find?]
    simp only [hfits]
  · rw [classify_eq_unrecognized_iff]
    simp only [SegmentKind.matches?_eq, Option.some.injEq]
  · -- a bracket with a clause in it would have been classified as a filter before
    have hrule : ⟨clauseOnlySource, row (bracketParts clausePattern), 4⟩ ∈ writtenRules := by
      simp [writtenRules]
    refine occurs?_row hrule (by decide) ?_
    rw [mem_bracket_iff]
    constructor
    · rintro ⟨body, hbody, hclause⟩
      rw [hbody] at h
      rw [mem_clausePattern_iff, isClause_of_classify h] at hclause
      exact hclause
    · intro hfalse
      cases hfalse

example : classify "[(a)]".toList = .filter ∧ classify "[(a\nb)]".toList = .unrecognized ∧
    classify "[\x27(a)\x27]".toList = .array := by
  decide +kernel

end DocQuery.Path
