import Mathlib
import DocQuery.Proofs.Expression.Spelling
import DocQuery.Proofs.Pattern.Enclosing

/-!
# Matching Whole Texts

The right operand of `~` is a pattern that has to cover the whole left operand.  To that end the
text of the pattern is pasted between anchors and read together with them.  This module says
when that comes to the same as reading the text alone.

It does so unless the text closes the group that it is pasted into, ends in a comment, or is
brought across a limit by the anchors.

## Main statements

- `matching_whole_iff`: for which patterns a match is a match with the whole text
-/

namespace DocQuery.Expression

open DocQuery.Pattern

/-- A match between two operands, as it is written. -/
def matchTokens (left right : Literal) : List Token :=
  [.literal left, .binary .matching, .literal right]

/-- Not both operands are numbers. -/
def ComparesTexts (left right : Literal) : Prop :=
  ∀ x y, ¬(left.operand = .number x ∧ right.operand = .number y)

theorem combine_matching {a b : Operand} (h : ∀ x y, ¬(a = .number x ∧ b = .number y)) :
    BinaryOperator.matching.combine a b =
      BinaryOperator.matching.onTexts a.toText b.toText := by
  cases a with
  | text => rfl
  | number x =>
    cases b with
    | text => rfl
    | number y => exact absurd ⟨rfl, rfl⟩ (h x y)

theorem evaluateTokens_matchTokens (left right : Literal) :
    evaluateTokens (matchTokens left right) =
      (BinaryOperator.matching.combine left.operand right.operand).map fun z => z == 1 := by
  have hconvert : Yard.convert (matchTokens left right) =
      .ok [.literal left, .literal right, .operator (.binary .matching)] := rfl
  simp only [evaluateTokens, hconvert, evaluatePostfix, runItems, Item.run, Operator.run, bind,
    Except.bind]
  cases BinaryOperator.matching.combine left.operand right.operand with
  | error e => rfl
  | ok z => rfl

/-- A match is true or false as the pattern says, or fails if there is none. -/
theorem evaluateTokens_matchTokens_of_texts {left right : Literal} (h : ComparesTexts left right) :
    evaluateTokens (matchTokens left right) =
      match fullMatch? right.operand.toText left.operand.toText with
      | some m => .ok m
      | none => .error (.invalidPattern right.operand.toText) := by
  have verdict_truth : ∀ m, (truth m == 1) = m := by decide +kernel
  rw [evaluateTokens_matchTokens, combine_matching h, BinaryOperator.onTexts]
  cases fullMatch? right.operand.toText left.operand.toText with
  | none => rfl
  | some m => exact congrArg Except.ok (verdict_truth m)

/-- Which patterns `~` treats as it should: it is true exactly if the right operand alone is a
pattern that covers the whole left operand, false exactly if it is one that does not, and fails
as malformed exactly if it is none.  These are the patterns that can be put between anchors. -/
theorem matching_whole_iff {left right : Literal} (texts : ComparesTexts left right) :
    Enclosable right.operand.toText.toList ↔
      (evaluateTokens (matchTokens left right) = .ok true ↔
        ∃ p, read? right.operand.toText.toList = some p ∧ p.Covers left.operand.toText.toList) ∧
      (evaluateTokens (matchTokens left right) = .ok false ↔
        ∃ p, read? right.operand.toText.toList = some p ∧ ¬p.Covers left.operand.toText.toList) ∧
      ((∃ e, evaluateTokens (matchTokens left right) = .error e ∧ e.isMalformed) ↔
        read? right.operand.toText.toList = none) := by
  rw [evaluateTokens_matchTokens_of_texts texts]
  constructor
  · intro enclosable
    rw [fullMatch?_eq enclosable]
    rcases hread : read? right.operand.toText.toList with _ | p
    · simp [ExprError.isMalformed, ExprError.defect?]
    · have covers := matchesAll_iff_covers (read?_wellFormed hread) left.operand.toText.toList
      cases hall : p.matchesAll left.operand.toText.toList <;> simp_all
  · -- Which texts fail says enough: a text that fails is no pattern between the anchors.
    rintro ⟨-, -, fails⟩
    apply enclosable_of_isSome
    rw [Bool.eq_iff_iff, ← not_iff_not, Option.not_isSome_iff_eq_none,
      Option.not_isSome_iff_eq_none, ← fails, fullMatch?]
    cases read? (anchored right.operand.toText.toList) with
    | none => simp [ExprError.isMalformed, ExprError.defect?]
    | some p => simp

theorem matching_whole_iff_choice :
    ∃ p, read? "(a|b)c*".toList = some p ∧ p.Covers "bcc".toList := by
  have texts : ComparesTexts (.string "bcc") (.string "(a|b)c*") := fun _ _ h => nomatch h.1
  have enclosable : Enclosable "(a|b)c*".toList := by decide +kernel
  have holds : evaluateTokens (matchTokens (.string "bcc") (.string "(a|b)c*")) = .ok true := by
    decide +kernel
  exact ((matching_whole_iff texts).mp enclosable).1.mp holds

/-- A parenthesis that the text has not opened closes the group around it, so that a text which is
no pattern matches; and a comment hides the end of that group, so that a pattern which covers the
whole text fails. -/
theorem matching_escapes_group :
    (evaluateTokens (matchTokens (.string "axx") (.string "a)|(?:b")) = .ok true ∧
      read? "a)|(?:b".toList = none) ∧
    (evaluateTokens (matchTokens (.string "a") (.string "(?x)a#b")) =
        .error (.invalidPattern "(?x)a#b") ∧
      ∃ p, read? "(?x)a#b".toList = some p ∧ p.Covers "a".toList) := by
  refine ⟨⟨by decide +kernel, by decide +kernel⟩, by decide +kernel, ?_⟩
  have covers : (read? "(?x)a#b".toList).any (·.matchesAll "a".toList) := by decide +kernel
  obtain ⟨p, hread, hall⟩ := (Option.any_eq_true _ _).mp covers
  exact ⟨p, hread, (matchesAll_iff_covers (read?_wellFormed hread) _).mp hall⟩

end DocQuery.Expression
