import Mathlib
import DocQuery.Document.Table
import DocQuery.Proofs.Document.Parts
import DocQuery.Proofs.Query.Quoting

/-!
# Arguments of Conditions

A word, an equals sign and a question mark select the rows whose member is the argument.  The two
sides are not written alike, though.  An argument is put between quotes, whatever it is.  A member
that is a word for a truth value becomes that truth value, which counts as one or zero; so it equals
the argument `1` or `0`, and never itself.

## Main definitions

- `NamesMember`: the words of a condition that name a member
- `comparedText`: the text that a string member counts as

## Main statements

- `matching_equals`: the rows that a condition with an argument selects
-/

namespace DocQuery

open DocQuery.Text DocQuery.Decimal DocQuery.Expression
open DocQuery.Path (Ends ends_cons isBareChar IsBareName isWord_of_isBareChar)

variable {s : Store} {v : Value} {h : Handle} {items : List Value} {field content text key : String}

/-! ## Conditions -/

/-- The word starts as words do and is neither a connective, in any case, nor a truth value. -/
structure NamesMember (field : String) : Prop where
  bare : IsBareName field
  starts : ∀ c ∈ field.toList.head?, ConditionPart.startsWord c = true
  not_connective : field.toList.map Char.toLower ∉ [['a', 'n', 'd'], ['o', 'r']]
  not_truth : field ∉ ["true", "false"]

/-- Such a word becomes a reference. -/
theorem NamesMember.expandWord_eq (hfield : NamesMember field) :
    ConditionPart.expandWord field.toList = '@' :: '.' :: field.toList := by
  have hconnective := hfield.not_connective
  have htruth := hfield.not_truth
  simp only [List.mem_cons, List.not_mem_nil, or_false, not_or] at hconnective htruth
  have htrue : field.toList ≠ Json.Spelling.bool true := fun heq =>
    htruth.1 (String.toList_inj.mp heq)
  have hfalse : field.toList ≠ Json.Spelling.bool false := fun heq =>
    htruth.2 (String.toList_inj.mp heq)
  rw [ConditionPart.expandWord, if_neg hconnective.1, if_neg hconnective.2,
    if_neg (not_or.mpr ⟨htrue, hfalse⟩)]

/-- A word is taken off the front of a condition as a whole. -/
theorem Condition.parts_word {name rest : List Char}
    (hstarts : ∀ c ∈ name.head?, ConditionPart.startsWord c = true) (hne : name ≠ [])
    (hname : ∀ c ∈ name, isWord c = true) (hrest : Ends isWord rest) :
    Condition.parts (name ++ rest) = .word name :: Condition.parts rest := by
  obtain ⟨c, cs, rfl⟩ := List.exists_cons_of_ne_nil hne
  have hword : FrontPart (.word (c :: cs)) rest :=
    .word (hstarts c rfl) (fun d hd => hname d (List.mem_cons_of_mem c hd)) hrest
  exact hword.parts_eq

/-- The condition that compares a member with an argument is a comparison with a text. -/
theorem expand_equals (hfield : NamesMember field) (text : String) :
    "(" ++ Condition.expand (field ++ " = ?") [.string text] ++ ")" = equalsText field text := by
  have hword : ∀ c ∈ field.toList, isWord c = true := fun c hc =>
    isWord_of_isBareChar (hfield.bare.2 c hc)
  have hends : Ends isWord " = ?".toList := ends_cons (isWord_eq_of_lt (by decide)) _
  have hrest : Condition.parts " = ?".toList =
      [.verbatim [' '], .comparison ['='], .verbatim [' '], .parameter] := by decide +kernel
  have hparts : Condition.parts (field ++ " = ?").toList =
      [.word field.toList, .verbatim [' '], .comparison ['='], .verbatim [' '], .parameter] := by
    rw [String.toList_append, Condition.parts_word hfield.starts hfield.bare.1 hword hends, hrest]
  have hexpand : Condition.expand (field ++ " = ?") [.string text] =
      String.ofList ('@' :: '.' :: (field.toList ++ " == ".toList ++ quoted text)) := by
    rw [Condition.expand, hparts]
    simp [Condition.fill, Condition.argument?, ConditionPart.expanded, hfield.expandWord_eq,
      ConditionPart.expandComparison]
  apply String.toList_inj.mp
  rw [hexpand, toList_equalsText]
  simp [comparisonEnd, quoted, Cursor.quote]

/-! ## Rows -/

/-- The text that a string counts as when it is compared: words for truth values are numbers. -/
def comparedText (content : String) : String :=
  if isOneOf truthyWords content.toList then "1"
  else if isOneOf falsyWords content.toList then "0"
  else content

/-- The literal for a string compares as the text that the string counts as. -/
theorem evaluateTokens_compared {ts : List Token} (hts : literalTokens? (.string content) = some ts)
    (text : String) :
    evaluateTokens (.leftParen :: (ts ++ [.binary .equal, .string text, .rightParen])) =
      .ok (comparedText content == text) := by
  have hone : ((1 : Float) == 1) = true := by decide +kernel
  have hzero : ((0 : Float) == 1) = false := by decide +kernel
  have htrue : numberText 1 = "1" := by decide +kernel
  have hfalse : numberText 0 = "0" := by decide +kernel
  have hverdict : ∀ b, (truth b == 1) = b := by
    intro b
    cases b with
    | true => rw [truth, if_pos rfl, hone]
    | false => rw [truth, if_neg Bool.false_ne_true, hzero]
  rw [literalTokens?] at hts
  unfold comparedText
  cases hts
  split
  · show Except.ok (truth (numberText 1 == text) == 1) = _
    rw [hverdict, htrue]
  · split
    · show Except.ok (truth (numberText 0 == text) == 1) = _
      rw [hverdict, hfalse]
    · exact evaluateTokens_comparison content text

/-- A row is kept exactly if its member counts as the text. -/
theorem test_equalsText_compared (hobject : s.isObject v = true) (hfield : IsBareName field)
    (hmember : s.member? v field = some (.string content))
    (hcontent : ∀ c ∈ content.toList, isDelimiter c = false)
    (htext : ∀ c ∈ text.toList, isDelimiter c = false ∧ c ≠ '@') :
    s.test (equalsText field text) key v = (comparedText content == text) := by
  have htokens : ∃ ts, literalTokens? (.string content) = some ts := ⟨_, rfl⟩
  obtain ⟨ts, hts⟩ := htokens
  have hequal : Cursor.operator? ['=', '='] = some (.binary .equal, 2) := rfl
  have hexpr : equalsText field text =
      String.ofList
        ('(' :: '@' :: '.' :: (field.toList ++ againstText ['=', '='] text.toList)) := by
    rw [← String.ofList_toList (s := equalsText field text), toList_equalsText]
    rfl
  rw [hexpr, test_againstText hobject hfield hmember hcontent hts hequal htext,
    String.ofList_toList, evaluateTokens_compared hts]

/-- Let the root be an array of objects whose member `field` is a string without quotes and
brackets.  The condition that compares the member with an argument selects the rows, in their order,
whose member counts as the argument: a word for true as `1`, a word for false as `0`, and any other
string as itself. -/
theorem matching_equals (d : Document) (hroot : d.root = .container h)
    (hcell : d.store.cell h = .array items) (hfield : NamesMember field)
    (hrows : ∀ v ∈ items, ∃ content, d.store.member? v field = some (.string content) ∧
      ∀ c ∈ content.toList, isDelimiter c = false)
    (htext : ∀ c ∈ text.toList, isDelimiter c = false ∧ c ≠ '@') :
    d.matching (field ++ " = ?") [.string text] =
      d.collapse (items.filter fun v =>
        ((d.store.member? v field).bind Value.string?).any fun content =>
          comparedText content == text) := by
  have hkeeps : ∀ item ∈ items.zipIdx,
      (!d.store.isArray item.1 &&
          d.store.test (equalsText field text) (Nat.repr item.2) item.1) =
        ((d.store.member? item.1 field).bind Value.string?).any fun content =>
          comparedText content == text := by
    rintro ⟨v, i⟩ hitem
    have hmem : v ∈ items := List.mem_of_getElem? (List.mem_zipIdx_iff_getElem?.mp hitem)
    obtain ⟨content, hmember, hcontent⟩ := hrows v hmem
    -- a value with a member is an object
    have hobject : d.store.isObject v = true ∧ d.store.isArray v = false := by
      cases v with
      | container g =>
        rw [Store.member?] at hmember
        cases hg : d.store.cell g with
        | object members => simp only [Store.isObject, Store.isArray, hg, and_self]
        | array others => rw [hg] at hmember; cases hmember
      | _ => cases hmember
    dsimp only
    rw [hobject.2, hmember,
      test_equalsText_compared hobject.1 hfield.bare hmember hcontent htext]
    rfl
  rw [Document.matching, expand_equals hfield, hroot, Store.filter_array hcell,
    List.filter_congr hkeeps]
  congr 1
  -- the rows are selected by what they hold, so their places may be left out
  conv_rhs => rw [← List.zipIdx_map_fst 0 items, List.filter_map]
  rfl

/-- Rows with a word for true, with the number that it counts as, and with another string. -/
theorem matching_equals_word :
    let s : Store := ⟨#[.array [.container ⟨1⟩, .container ⟨2⟩, .container ⟨3⟩],
      .object [("f", .string "x")], .object [("f", .string "Yes")], .object [("f", .string "1")]]⟩
    let d : Document := ⟨s, .container ⟨0⟩⟩
    NamesMember "f" ∧
      (∀ v ∈ [Value.container ⟨1⟩, .container ⟨2⟩, .container ⟨3⟩],
        ∃ content, s.member? v "f" = some (.string content) ∧
          ∀ c ∈ content.toList, isDelimiter c = false) ∧
      d.matching "f = ?" [.string "1"] = d.collapse [.container ⟨2⟩, .container ⟨3⟩] ∧
      d.matching "f = ?" [.string "x"] = d.collapse [.container ⟨1⟩] := by
  intro s d
  have hfield : NamesMember "f" := by
    constructor
    · simp [IsBareName, isBareChar, Char.isAlphanum, Char.isAlpha, Char.isLower]
    · simp [ConditionPart.startsWord, Char.isAlpha, Char.isLower]
    · decide
    · decide
  have hrows : ∀ v ∈ [Value.container ⟨1⟩, .container ⟨2⟩, .container ⟨3⟩],
      ∃ content, s.member? v "f" = some (.string content) ∧
        ∀ c ∈ content.toList, isDelimiter c = false := by
    intro v hv
    simp only [List.mem_cons, List.not_mem_nil, or_false] at hv
    rcases hv with rfl | rfl | rfl
    · exact ⟨"x", rfl, by simp [isDelimiter, Cursor.quote]⟩
    · exact ⟨"Yes", rfl, by simp [isDelimiter, Cursor.quote]⟩
    · exact ⟨"1", rfl, by simp [isDelimiter, Cursor.quote]⟩
  have hcondition : "f = ?" = "f" ++ " = ?" := by decide +kernel
  have hnumber : ∀ c ∈ "1".toList, isDelimiter c = false ∧ c ≠ '@' := by
    simp [isDelimiter, Cursor.quote]
  have hletter : ∀ c ∈ "x".toList, isDelimiter c = false ∧ c ≠ '@' := by
    simp [isDelimiter, Cursor.quote]
  -- a word for true counts as 1, so the second row is selected with the third
  refine ⟨hfield, hrows, ?_, ?_⟩
  · rw [hcondition, matching_equals d rfl rfl hfield hrows hnumber]
    rfl
  · rw [hcondition, matching_equals d rfl rfl hfield hrows hletter]
    rfl

/-- A word for a truth value is not selected as equal to itself but as equal to a number, and a word
that starts with a digit names no member. -/
theorem matching_equals_ne_self :
    let s : Store := ⟨#[.array [.container ⟨1⟩],
      .object [("f", .string "yes"), ("1", .string "a")]]⟩
    let d : Document := ⟨s, .container ⟨0⟩⟩
    s.member? (.container ⟨1⟩) "f" = some (.string "yes") ∧
      (d.matching "f = ?" [.string "yes"]).root ≠ (d.collapse [.container ⟨1⟩]).root ∧
      "yes" ≠ "1" ∧ (d.matching "f = ?" [.string "1"]).root = (d.collapse [.container ⟨1⟩]).root ∧
      s.member? (.container ⟨1⟩) "1" = some (.string "a") ∧
      (d.matching "1 = ?" [.string "a"]).root ≠ (d.collapse [.container ⟨1⟩]).root := by
  decide +kernel

end DocQuery
