import Mathlib
import DocQuery.Proofs.Expression.Quotes
import DocQuery.Proofs.Query.Literal
import DocQuery.Proofs.Query.Template

/-!
# Strings in Filters

The text of a member is put between quotes as it is, and afterwards all brackets are taken out of
the expression.  So brackets in a member do not count in a comparison.  A quote in it ends the
string, and what follows the quote is read as a part of the expression; a single one leaves a quote
without its partner, and the element is dropped.

## Main statements

- `mem_filter_equals_iff`: which elements a comparison with a text keeps
-/

namespace DocQuery

open DocQuery.Text DocQuery.Decimal DocQuery.Expression
open DocQuery.Path (Ends ends_cons isBareChar IsBareName isWord_of_isBareChar)

/-- The text without brackets. -/
def withoutBrackets (cs : List Char) : List Char := cs.filter fun c => c != '[' && c != ']'

/-- The expression that compares the member `field` with a text. -/
def equalsText (field text : String) : String := "(@." ++ field ++ " == '" ++ text ++ "')"

/-- What stands behind the first text of a comparison. -/
def comparisonEnd (t : List Char) : List Char :=
  ' ' :: '=' :: '=' :: ' ' :: Cursor.quote :: (t ++ [Cursor.quote, ')'])

/-- The text `s` between quotes, compared with the text `t` between quotes, in parentheses. -/
def comparison (s t : List Char) : List Char :=
  '(' :: Cursor.quote :: (s ++ Cursor.quote :: comparisonEnd t)

variable {s : Store} {h o : Handle} {items : List Value} {members : Json.Members Value}
  {field content text : String}

/-! ## The expression for an element -/

theorem toList_equalsText (field text : String) :
    (equalsText field text).toList =
      ['('] ++ ('@' :: '.' :: field.toList ++ comparisonEnd text.toList) := by
  simp [equalsText, comparisonEnd, Cursor.quote]

theorem withoutBrackets_comparison (s t : List Char) :
    withoutBrackets (comparison s t) = comparison (withoutBrackets s) (withoutBrackets t) := by
  simp [withoutBrackets, comparison, comparisonEnd, Cursor.quote]

theorem withoutBrackets_eq_self {cs : List Char} (hcs : ∀ c ∈ cs, isDelimiter c = false) :
    withoutBrackets cs = cs := by
  apply List.filter_eq_self.mpr
  intro c hc
  have hdelimiter := hcs c hc
  simp only [isDelimiter, Bool.or_eq_false_iff, beq_eq_false_iff_ne] at hdelimiter
  simp [hdelimiter]

theorem count_quote_withoutBrackets (cs : List Char) :
    (withoutBrackets cs).count Cursor.quote = cs.count Cursor.quote :=
  List.count_filter (by decide)

/-- The literal for the member goes into the expression, and then brackets are taken out. -/
theorem instantiate?_of_literal {key : String} {v : Value} {literal tail : List Char}
    (hfield : IsBareName field)
    (hliteral : (s.referent? key v field.toList).bind literal? = some literal)
    (hends : Ends isWord tail) (hat : '@' ∉ tail) :
    s.instantiate? (String.ofList ('(' :: '@' :: '.' :: (field.toList ++ tail))) key v =
      some (String.ofList (withoutBrackets ('(' :: (literal ++ tail)))) := by
  have hopen : '@' ∉ ['('] := by decide
  have hword : ∀ c ∈ field.toList, isWord c = true := fun c hc =>
    isWord_of_isBareChar (hfield.2 c hc)
  have htext : (String.ofList ('(' :: '@' :: '.' :: (field.toList ++ tail))).toList =
      ['('] ++ ('@' :: '.' :: field.toList ++ tail) := String.toList_ofList
  have hfill : Template.fill? (fun name => (s.referent? key v name).bind literal?)
      (Template.parts (['('] ++ ('@' :: '.' :: field.toList ++ tail))) =
        some ('(' :: (literal ++ tail)) := by
    rw [Template.fill?_parts_append hopen,
      Template.fill?_parts_reference hfield.1 hword hends, hliteral,
      ← List.append_nil tail, Template.fill?_parts_append hat]
    simp [Template.parts, Template.fill?]
  rw [Store.instantiate?, htext, hfill, Option.map_some]
  rfl

theorem instantiate?_equalsText_of_literal {key : String} {v : Value} {literal : List Char}
    (hfield : IsBareName field)
    (hliteral : (s.referent? key v field.toList).bind literal? = some literal)
    (htext : ∀ c ∈ text.toList, isDelimiter c = false ∧ c ≠ '@') :
    s.instantiate? (equalsText field text) key v =
      some (String.ofList (withoutBrackets ('(' :: (literal ++ comparisonEnd text.toList)))) := by
  have hends : Ends isWord (comparisonEnd text.toList) := ends_cons (isWord_eq_of_lt (by decide)) _
  have hend : '@' ∉ comparisonEnd text.toList := by
    have hat : '@' ∉ text.toList := fun hmem => (htext '@' hmem).2 rfl
    simp [comparisonEnd, hat, Cursor.quote]
  rw [← instantiate?_of_literal hfield hliteral hends hend,
    ← String.ofList_toList (s := equalsText field text), toList_equalsText]
  rfl

/-- The value that the field of an object means. -/
theorem referent?_object {v : Value} (hobject : s.isObject v = true) (key field : String) :
    s.referent? key v field.toList = s.member? v field := by
  rw [Store.referent?, if_pos hobject, String.ofList_toList]

/-! ## A member against a text -/

/-- An operator behind a member, and a text between quotes behind the operator. -/
def againstText (spelling t : List Char) : List Char :=
  ' ' :: (spelling ++ ' ' :: Cursor.quote :: (t ++ [Cursor.quote, ')']))

theorem spells_literal_of_tokens {v : Value} {ts : List Token} (hlegible : v.Legible)
    (htokens : literalTokens? v = some ts) : ∃ cs, literal? v = some cs ∧ Spells cs ts := by
  have hliteral : ∃ cs, literal? v = some cs := by
    cases v with
    | null => cases htokens
    | container g => cases htokens
    | _ => exact ⟨_, rfl⟩
  obtain ⟨cs, hcs⟩ := hliteral
  obtain ⟨us, hus, hspells⟩ := spells_literal hlegible hcs
  rw [htokens] at hus
  cases hus
  exact ⟨cs, hcs, hspells⟩

/-- A member that can be read is combined with the text as the tokens of the two say. -/
theorem test_againstText {key : String} {v w : Value} {ts : List Token} {op : BinaryOperator}
    {spelling t : List Char} (hobject : s.isObject v = true) (hfield : IsBareName field)
    (hmember : s.member? v field = some w) (hlegible : w.Legible)
    (htokens : literalTokens? w = some ts)
    (hspelling : Cursor.operator? spelling = some (.binary op, spelling.length))
    (htext : ∀ c ∈ t, isDelimiter c = false ∧ c ≠ '@') :
    s.test (String.ofList ('(' :: '@' :: '.' :: (field.toList ++ againstText spelling t))) key v =
      match evaluateTokens
        (.leftParen :: (ts ++ [.binary op, .string (String.ofList t), .rightParen])) with
      | .ok keep => keep
      | .error _ => false := by
  obtain ⟨cs, hcs, hspells⟩ := spells_literal_of_tokens hlegible htokens
  have hliteral : (s.referent? key v field.toList).bind literal? = some cs := by
    rw [referent?_object hobject, hmember]
    exact hcs
  have hoperator := spells_operator hspelling
  have hquote : Cursor.quote ∉ t := fun hq => absurd (htext Cursor.quote hq).1 (by decide)
  have hends : Ends isWord (againstText spelling t) := ends_cons (isWord_eq_of_lt (by decide)) _
  have hat : '@' ∉ againstText spelling t := by
    have hleft : '@' ∉ spelling := fun hmem => absurd (mem_operatorChars hspelling hmem) (by decide)
    have hright : '@' ∉ t := fun hmem => (htext '@' hmem).2 rfl
    simp [againstText, hleft, hright, Cursor.quote]
  have hread : Reads ('(' :: (cs ++ againstText spelling t))
      (.leftParen :: (ts ++ [.binary op, .string (String.ofList t), .rightParen])) := by
    have hright := (reads_nil.rightParen.string hquote).space.operator (apart_space _) hspelling
    have hwhole := (hspells.reads (apart_space _) hright.space).leftParen
    simpa [againstText] using hwhole
  have hmarks : ∀ c ∈ t, c ≠ '[' ∧ c ≠ ']' := by
    intro c hc
    constructor <;> (rintro rfl; exact absurd (htext _ hc).1 (by decide))
  -- there are no brackets that could be taken out
  have hbrackets : ∀ c ∈ '(' :: (cs ++ againstText spelling t), c ≠ '[' ∧ c ≠ ']' := by
    simp only [againstText, List.forall_mem_cons, List.forall_mem_append]
    exact ⟨by decide, hspells.no_bracket, by decide, hoperator.no_bracket, by decide, by decide,
      hmarks, by decide, by decide, List.forall_mem_nil _⟩
  have hclean : withoutBrackets ('(' :: (cs ++ againstText spelling t)) =
      '(' :: (cs ++ againstText spelling t) :=
    List.filter_eq_self.mpr fun c hc => by simpa using hbrackets c hc
  have hvalue : evaluate (String.ofList ('(' :: (cs ++ againstText spelling t))) =
      evaluateTokens (.leftParen :: (ts ++ [.binary op, .string (String.ofList t), .rightParen])) :=
    evaluate_of_reads (by rwa [String.toList_ofList])
  rw [Store.test, instantiate?_of_literal hfield hliteral hends hat, hclean]
  exact congrArg (fun r => match r with | .ok keep => keep | .error _ => false) hvalue

/-- The member goes into the expression as it is, but for brackets. -/
theorem instantiate?_equalsText {key : String} (hobject : s.cell o = .object members)
    (hfield : IsBareName field) (hmember : members.get? field = some (.string content))
    (htruthy : isOneOf truthyWords content.toList = false)
    (hfalsy : isOneOf falsyWords content.toList = false)
    (htext : ∀ c ∈ text.toList, isDelimiter c = false ∧ c ≠ '@') :
    s.instantiate? (equalsText field text) key (.container o) =
      some (String.ofList (comparison (withoutBrackets content.toList) text.toList)) := by
  have hliteral : (s.referent? key (.container o) field.toList).bind literal? =
      some (quoted content) := by
    have hisObject : s.isObject (.container o) = true := by
      simp only [Store.isObject, hobject]
    rw [referent?_object hisObject]
    simp [Store.member?, hobject, hmember, literal?, stringLiteral, htruthy, hfalsy]
  have hcomparison : '(' :: (quoted content ++ comparisonEnd text.toList) =
      comparison content.toList text.toList := by
    simp [comparison, quoted, Cursor.quote]
  rw [instantiate?_equalsText_of_literal hfield hliteral htext, hcomparison,
    withoutBrackets_comparison, withoutBrackets_eq_self fun c hc => (htext c hc).1]

/-! ## The comparison -/

theorem evaluateTokens_comparison (a b : String) :
    evaluateTokens [.leftParen, .string a, .binary .equal, .string b, .rightParen] =
      .ok (a == b) := by
  have hone : ((1 : Float) == 1) = true := by decide +kernel
  have hzero : ((0 : Float) == 1) = false := by decide +kernel
  show Except.ok (truth (a == b) == 1) = _
  cases a == b with
  | true => rw [truth, if_pos rfl, hone]
  | false => rw [truth, if_neg Bool.false_ne_true, hzero]

/-- Texts without quotes are compared as they are. -/
theorem evaluate_comparison {a b : List Char} (ha : Cursor.quote ∉ a) (hb : Cursor.quote ∉ b) :
    evaluate (String.ofList (comparison a b)) = .ok (a == b) := by
  have hequal : Cursor.operator? ['=', '='] = some (.binary .equal, 2) := rfl
  have hright := (reads_nil.rightParen.string hb).space.operator (apart_space _) hequal
  have hread := (hright.space.string ha).leftParen
  have hevaluate : evaluate (String.ofList (comparison a b)) =
      evaluateTokens [.leftParen, .string (String.ofList a), .binary .equal,
        .string (String.ofList b), .rightParen] := by
    apply evaluate_of_reads
    rw [String.toList_ofList]
    simpa [comparison, comparisonEnd] using hread
  have hbeq : (String.ofList a == String.ofList b) = (a == b) := by
    rw [Bool.eq_iff_iff, beq_iff_eq, beq_iff_eq]
    exact ⟨fun h => String.ofList_inj.mp h, fun h => by rw [h]⟩
  rw [hevaluate, evaluateTokens_comparison, hbeq]

/-- With an odd number of quotes in one of the texts there is no comparison. -/
theorem evaluate_comparison_ne {a b : List Char} (ha : Odd (a.count Cursor.quote))
    (hb : Cursor.quote ∉ b) (keep : Bool) :
    evaluate (String.ofList (comparison a b)) ≠ .ok keep := by
  apply evaluate_ne_ok_of_odd
  have hcount : (comparison a b).count Cursor.quote = a.count Cursor.quote + 4 := by
    have hzero : b.count Cursor.quote = 0 := List.count_eq_zero_of_not_mem hb
    simp only [comparison, comparisonEnd, List.count_append, List.count_cons, List.count_nil, hzero]
    rfl
  rw [String.toList_ofList, hcount]
  exact ha.add_even (by decide)

/-! ## Filtering -/

/-- The comparison holds of an object exactly if its member without brackets is the text. -/
theorem test_equalsText {key : String} (hobject : s.cell o = .object members)
    (hfield : IsBareName field) (hmember : members.get? field = some (.string content))
    (htruthy : isOneOf truthyWords content.toList = false)
    (hfalsy : isOneOf falsyWords content.toList = false)
    (hquotes : Cursor.quote ∉ content.toList ∨ Odd (content.toList.count Cursor.quote))
    (htext : ∀ c ∈ text.toList, isDelimiter c = false ∧ c ≠ '@') :
    s.test (equalsText field text) key (.container o) = true ↔
      withoutBrackets content.toList = text.toList := by
  have hquote : Cursor.quote ∉ text.toList := fun hq =>
    absurd (htext Cursor.quote hq).1 (by decide)
  rw [Store.test, instantiate?_equalsText hobject hfield hmember htruthy hfalsy htext]
  dsimp only
  rcases hquotes with hnone | hodd
  · have hclean : Cursor.quote ∉ withoutBrackets content.toList := fun hq =>
      hnone (List.mem_of_mem_filter hq)
    rw [evaluate_comparison hclean hquote]
    exact beq_iff_eq
  · rw [← count_quote_withoutBrackets] at hodd
    constructor
    · -- the expression has a quote without its partner
      intro htrue
      exfalso
      split at htrue
      · next keep heval => exact evaluate_comparison_ne hodd hquote keep heval
      · cases htrue
    · -- the text has no quotes, so it is not the member
      intro heq
      rw [heq, List.count_eq_zero_of_not_mem hquote] at hodd
      exact absurd hodd (by decide)

/-- An element of an array is kept exactly if the expression holds of it, where this does not
depend on the place of the element. -/
theorem mem_filter_array {expr : String} {v : Value} {P : Prop} (harray : s.cell h = .array items)
    (hmem : v ∈ items) (hv : s.isArray v = false) (htest : ∀ key, s.test expr key v = true ↔ P) :
    v ∈ s.filter expr (.container h) ↔ P := by
  have hentries : (s.cell h).entries.map Prod.snd = items := by
    rw [Cell.map_snd_entries, harray]
    rfl
  have hfilter : s.filter expr (.container h) =
      ((s.cell h).entries.filter fun e => !s.isArray e.2 && s.test expr e.1 e.2).map Prod.snd := by
    simp only [Store.filter, harray]
  rw [hfilter]
  constructor
  · intro hkept
    obtain ⟨⟨key, w⟩, hentry, hw⟩ := List.mem_map.mp hkept
    obtain rfl : w = v := hw
    have hpassed := (List.mem_filter.mp hentry).2
    rw [Bool.and_eq_true] at hpassed
    exact (htest key).mp hpassed.2
  · intro hP
    rw [← hentries] at hmem
    obtain ⟨⟨key, w⟩, hentry, hw⟩ := List.mem_map.mp hmem
    obtain rfl : w = v := hw
    apply List.mem_map.mpr
    refine ⟨(key, w), List.mem_filter.mpr ⟨hentry, ?_⟩, rfl⟩
    rw [hv, (htest key).mpr hP]
    rfl

/-- Let a member of an element be a string that is no word for a truth value, with no quote in it
or an odd number of them.  A comparison of the member with a text keeps the element exactly if the
string without its brackets is the text. -/
theorem mem_filter_equals_iff (harray : s.cell h = .array items) (hmem : .container o ∈ items)
    (hobject : s.cell o = .object members) (hfield : IsBareName field)
    (hmember : members.get? field = some (.string content))
    (htruthy : isOneOf truthyWords content.toList = false)
    (hfalsy : isOneOf falsyWords content.toList = false)
    (hquotes : Cursor.quote ∉ content.toList ∨ Odd (content.toList.count Cursor.quote))
    (htext : ∀ c ∈ text.toList, isDelimiter c = false ∧ c ≠ '@') :
    .container o ∈ s.filter (equalsText field text) (.container h) ↔
      withoutBrackets content.toList = text.toList := by
  apply mem_filter_array harray hmem
  · simp only [Store.isArray, hobject]
  · intro key
    exact test_equalsText hobject hfield hmember htruthy hfalsy hquotes htext

/-- A string with brackets equals the text without them, and one with a quote equals none. -/
theorem mem_filter_equals_iff_brackets :
    let s : Store := ⟨#[.array [.container ⟨1⟩, .container ⟨2⟩], .object [("f", .string "a[b]")],
      .object [("f", .string "it's")]]⟩
    .container ⟨1⟩ ∈ s.filter (equalsText "f" "ab") (.container ⟨0⟩) ∧
      .container ⟨2⟩ ∉ s.filter (equalsText "f" "its") (.container ⟨0⟩) := by
  intro s
  have hfield : IsBareName "f" := by
    simp [IsBareName, isBareChar, Char.isAlphanum, Char.isAlpha, Char.isLower]
  have hwords : isOneOf truthyWords "a[b]".toList = false ∧
      isOneOf falsyWords "a[b]".toList = false ∧ isOneOf truthyWords "it's".toList = false ∧
      isOneOf falsyWords "it's".toList = false := by decide +kernel
  obtain ⟨htruthy, hfalsy, htruthy', hfalsy'⟩ := hwords
  constructor
  · rw [mem_filter_equals_iff rfl (by simp) rfl hfield rfl htruthy hfalsy]
    · decide
    · left
      decide
    · simp [isDelimiter, Cursor.quote]
  · rw [mem_filter_equals_iff rfl (by simp) rfl hfield rfl htruthy' hfalsy']
    · decide
    · right
      decide
    · simp [isDelimiter, Cursor.quote]

/-- Neither brackets nor quotes of a member are written in a way that they stand for themselves: a
string with a bracket is kept as equal to the text without it, and quotes in a string let it be
kept as equal to a text that has nothing to do with it. -/
theorem mem_filter_equals_of_ne :
    let s : Store := ⟨#[.array [.container ⟨1⟩, .container ⟨2⟩], .object [("f", .string "a]")],
      .object [("f", .string "x' == 'x")]]⟩
    ("a]" ≠ "a" ∧ .container ⟨1⟩ ∈ s.filter (equalsText "f" "a") (.container ⟨0⟩)) ∧
      "x' == 'x" ≠ "1" ∧ .container ⟨2⟩ ∈ s.filter (equalsText "f" "1") (.container ⟨0⟩) := by
  decide +kernel

end DocQuery
