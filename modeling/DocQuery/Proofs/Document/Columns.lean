import Mathlib
import DocQuery.Proofs.Decimal.Whole
import DocQuery.Proofs.Document.Dates
import DocQuery.Proofs.Document.Patterns
import DocQuery.Proofs.Expression.FullMatch
import DocQuery.Proofs.Path.RoundTrip
import DocQuery.Proofs.Query.Pointwise
import DocQuery.Proofs.Query.Quoting

/-!
# Typed Columns and Typed Paths

A column of a table can be read along the path of its members, or from the rows whose members look
right.  On the second way a member is written into an expression, evaluated and matched with a
pattern before it is read.

No whole number from zero upwards is lost on that way, whatever its size and be it kept as a
floating-point number.  The pattern has no sign.  Of the dates those are kept that are written in
plain digits: a member that is read as a date is a string that comes through the expression as it
is, so that the pattern sees the text that the date is read from.

## Main statements

- `find_columnPath`, `membersOfRows_eq`: the members that are found on the two ways
- `columns_agree`: what the two ways have in common
-/

namespace DocQuery

open DocQuery.Text DocQuery.Decimal DocQuery.Expression DocQuery.Pattern
open DocQuery.Path (IsBareName)

/-! ## The paths -/

namespace Path

variable {name pattern : String}

/-- A single dot is left out. -/
theorem splitFrom_dot {c : Char} (hdot : c ≠ '.') (cs : List Char) :
    splitFrom ('.' :: c :: cs) = splitFrom (c :: cs) := by
  apply splitFrom_of_none
  · exact scanGlob_of_stop (by decide) _
  · exact scanNames_of_not_name (by decide) isNameChar_dot _
  · simp [scanDescendant, hdot]
  · exact scanBracket_of_ne (by decide) _

/-- The path of a column goes to all rows, and from each of them to one member. -/
theorem parse_columnPath (hname : IsBareName name) :
    parse (Document.columnPath name) = [.array .all, .plain [name]] := by
  obtain ⟨c, cs, hcons⟩ := List.exists_cons_of_ne_nil hname.1
  have hdot : c ≠ '.' := ne_of_holds (hname.2 c (hcons ▸ List.mem_cons_self)) (by decide)
  have htext : Document.columnPath name = String.ofList (bracket ['*'] ++ '.' :: name.toList) := by
    rw [← String.toList_inj, String.toList_ofList, Document.columnPath, String.toList_append]
    rfl
  have hscan : scanBracket (bracket ['*'] ++ '.' :: name.toList) = (bracket ['*']).length :=
    scanBracket_bracket (by decide) (by decide) _
  -- what stands behind the dot is a path of its own
  have hword : (splitFrom name.toList).map segmentOf = [.plain [name]] := by
    have hparse := parse_wordPath (List.cons_ne_nil name []) (by simpa using hname)
    have hroot : stripRoot name.toList = name.toList := by
      have hfits : (WrittenName.bare name.toList).Fits isWord :=
        WrittenName.Valid.fits_word (n := .bare name.toList) hname
      have hstrip := stripRoot_joined hfits []
      rwa [List.append_nil] at hstrip
    have hpath : wordPath [name] = String.ofList name.toList := by simp [wordPath, join]
    rwa [hpath, parse_ofList, hroot] at hparse
  have hroot : stripRoot (bracket ['*'] ++ '.' :: name.toList) =
      bracket ['*'] ++ '.' :: name.toList := rfl
  rw [htext, parse_ofList, hroot, splitFrom_of_bracket (by rw [hscan]; decide), hscan,
    List.take_left, List.drop_left, List.map_cons, segmentOf_all]
  rw [hcons] at hword ⊢
  rw [splitFrom_dot hdot, hword]

/-- The expression that matches the member `name` with a pattern. -/
def matchExpression (name pattern : String) : String :=
  String.ofList ('(' :: '@' :: '.' :: (name.toList ++ againstText ['~'] pattern.toList))

/-- The path of the rows that look right is a filter. -/
theorem parse_rowsPath (hname : IsBareName name)
    (hpattern : ∀ c ∈ pattern.toList, c ≠ ']' ∧ c ≠ '\n') :
    parse (Document.rowsPath name pattern) = [.filter (matchExpression name pattern)] := by
  let middle : List Char :=
    '@' :: '.' :: (name.toList ++ [' ', '~', ' ', '\x27'] ++ pattern.toList ++ ['\x27'])
  have htext : Document.rowsPath name pattern =
      String.ofList (bracket ('(' :: (middle ++ [')']))) := by
    rw [← String.toList_inj, String.toList_ofList]
    simp [Document.rowsPath, bracket, middle]
  have hbody : '(' :: (middle ++ [')']) =
      '(' :: '@' :: '.' :: (name.toList ++ againstText ['~'] pattern.toList) := by
    simp [middle, againstText, Cursor.quote]
  -- neither the closing mark nor the end of the line stands in the expression
  have hmarks : ∀ d, d = ']' ∨ d = '\n' → d ∉ middle := by
    intro d hd hmem
    have hbare : isBareChar d = false := by
      rcases hd with rfl | rfl <;> decide
    have hleft : d ∉ name.toList := fun hc => ne_of_holds (hname.2 d hc) hbare rfl
    have hright : d ∉ pattern.toList := fun hc => by
      rcases hd with rfl | rfl
      · exact (hpattern _ hc).1 rfl
      · exact (hpattern _ hc).2 rfl
    rcases hd with rfl | rfl <;> simp [middle, hleft, hright] at hmem
  have hclose : ']' ∉ '(' :: (middle ++ [')']) := by
    simp [hmarks ']' (.inl rfl)]
  have hsegment : segmentOf (bracket ('(' :: (middle ++ [')']))) =
      .filter (String.ofList ('(' :: (middle ++ [')']))) :=
    segmentOf_clause (.inl rfl) (hmarks '\n' (.inr rfl))
  rw [htext, parse_bracket (List.cons_ne_nil _ _) hclose, hsegment, hbody]
  rfl

end Path

/-! ## The members -/

section Members

variable {s : Store} {h : Handle} {items : List Value} {name pattern : String}

/-- The member that a name leads to, unless that is the object itself. -/
def Store.memberBelow? (s : Store) (name : String) (v : Value) : Option Value :=
  (s.member? v name).filter fun w => !w.same v

theorem navigate_of_isObject {v : Value} (hobject : s.isObject v = true) (name : String) :
    s.navigate [name] v = .ok (s.memberBelow? name v) := by
  cases v with
  | container g =>
    cases hcell : s.cell g with
    | array others =>
      rw [Store.isObject, hcell] at hobject
      cases hobject
    | object members =>
      simp only [Store.navigate, Store.walk, Store.stepName, hcell, Store.memberBelow?,
        Store.member?, bind, Except.bind]
      cases Json.Members.get? members name <;> rfl
  | _ => cases hobject

theorem applyAll_name (hobjects : ∀ v ∈ items, s.isObject v = true) (name : String) :
    s.applyAll (.plain [name]) items = .ok (items.filterMap (s.memberBelow? name)) := by
  induction items with
  | nil => rfl
  | cons v items ih =>
    obtain ⟨hobject, hothers⟩ := List.forall_mem_cons.mp hobjects
    have happly : s.apply (.plain [name]) v = .ok (s.memberBelow? name v).toList := by
      rw [Store.apply, navigate_of_isObject hobject]
      rfl
    rw [Store.applyAll, happly, ih hothers, List.filterMap_cons]
    cases s.memberBelow? name v <;> rfl

/-- The path of a column finds the members of all rows. -/
theorem find_columnPath (hcell : s.cell h = .array items)
    (hobjects : ∀ v ∈ items, s.isObject v = true) (hname : IsBareName name) :
    s.find (.container h) (Document.columnPath name) =
      .ok (items.filterMap (s.memberBelow? name)) := by
  have hparse := Path.parse_columnPath hname
  have hroot : ¬(Document.columnPath name = "" ∨ Document.columnPath name = ".") :=
    not_or.mpr (Store.ne_of_parse_ne_nil (by rw [hparse]; exact List.cons_ne_nil _ _))
  have hcontainer : (!(Value.container h).isContainer) = false := rfl
  have hall : ∀ fragment, Path.Segment.array .all ≠ .unrecognized fragment := fun _ => nofun
  have hplain : ∀ fragment, Path.Segment.plain [name] ≠ .unrecognized fragment := fun _ => nofun
  have hrows : s.apply (.array .all) (.container h) = .ok items := by
    simp only [Store.apply, Store.select, hcontainer, Bool.false_eq_true, if_false, Store.children,
      hcell, Cell.children]
  rw [Store.find, if_neg hroot, hcontainer, if_neg Bool.false_ne_true, hparse,
    Store.runSegments_cons hall, Store.applyAll_singleton, hrows]
  show s.runSegments [.plain [name]] items = _
  rw [Store.runSegments_cons hplain, applyAll_name hobjects]
  rfl

/-- The rows that look right are those that pass the test. -/
theorem membersOfRows_eq {d : Document} (hroot : d.root = .container h)
    (hcell : d.store.cell h = .array items) (hobjects : ∀ v ∈ items, d.store.isObject v = true)
    (hname : IsBareName name) (hpattern : ∀ c ∈ pattern.toList, c ≠ ']' ∧ c ≠ '\n') :
    d.membersOfRows name (Document.rowsPath name pattern) =
      .ok ((items.filter (d.store.test (Path.matchExpression name pattern) "")).filterMap fun v =>
        d.store.member? v name) := by
  rw [Document.membersOfRows, Document.find, hroot,
    Store.find_of_parse_singleton (Path.parse_rowsPath hname hpattern) (fun _ => nofun),
    Store.apply, Store.filter_of_objects hcell hobjects]
  rfl

end Members

/-! ## The tests -/

section Tests

variable {s : Store} {v w : Value} {name pattern : String}

/-- A member is matched as the text of the operand that its literal comes to. -/
theorem test_matchExpression {ts : List Token} {l : Literal} {m : Bool}
    (hobject : s.isObject v = true) (hname : IsBareName name) (hmember : s.member? v name = some w)
    (hlegible : w.Legible) (htokens : literalTokens? w = some ts)
    (hoperand : evaluateTokens (.leftParen :: (ts ++
      [.binary .matching, .string pattern, .rightParen])) =
        evaluateTokens (matchTokens l (.string pattern)))
    (hpattern : ∀ c ∈ pattern.toList, isDelimiter c = false ∧ c ≠ '@')
    (hmatch : fullMatch? pattern l.operand.toText = some m) :
    s.test (Path.matchExpression name pattern) "" v = m := by
  have htilde : Cursor.operator? ['~'] = some (.binary .matching, 1) := rfl
  -- the pattern is no number, so the operands are compared as texts
  have htexts : ComparesTexts l (.string pattern) := fun _ _ h => by cases h.2
  have hvalue : evaluateTokens (matchTokens l (.string pattern)) = .ok m := by
    have htext : (Literal.string pattern).operand.toText = pattern := rfl
    rw [evaluateTokens_matchTokens_of_texts htexts, htext, hmatch]
  rw [Path.matchExpression, test_againstText hobject hname hmember hlegible htokens htilde hpattern,
    String.ofList_toList, hoperand, hvalue]

/-- A single token is an operand, also between parentheses. -/
theorem evaluateTokens_literal (l : Literal) (pattern : String) :
    evaluateTokens (.leftParen :: ([.literal l] ++
      [.binary .matching, .string pattern, .rightParen])) =
        evaluateTokens (matchTokens l (.string pattern)) := rfl

/-- A number below zero is written as a difference, and that is the operand. -/
theorem evaluateTokens_negated (size : Float) (pattern : String) :
    evaluateTokens (.leftParen :: (negatedTokens size ++
      [.binary .matching, .string pattern, .rightParen])) =
        evaluateTokens (matchTokens (.number (0 - size)) (.string pattern)) := rfl

/-- The patterns can stand in an expression and in a bracket. -/
theorem integerPattern_plain :
    (∀ c ∈ Document.integerPattern.toList, isDelimiter c = false ∧ c ≠ '@') ∧
      ∀ c ∈ Document.integerPattern.toList, c ≠ ']' ∧ c ≠ '\n' := by
  simp [Document.integerPattern, isDelimiter, Cursor.quote]

theorem datePattern_plain :
    (∀ c ∈ Document.datePattern.toList, isDelimiter c = false ∧ c ≠ '@') ∧
      ∀ c ∈ Document.datePattern.toList, c ≠ ']' ∧ c ≠ '\n' := by
  simp [Document.datePattern, isDelimiter, Cursor.quote]

/-- A whole number from zero upwards becomes a number that is written in digits. -/
theorem exists_numeral_of_integer? {n : Int64} (hinteger : w.integer? = some n) (hn : 0 ≤ n) :
    w.Legible ∧ ∃ y, literalTokens? w = some [.number y] ∧
      IsNumeral (Layout.positional.text y) := by
  have hnonneg : 0 ≤ n.toInt := Int64.le_iff_toInt_le.mp hn
  cases w with
  | integer k =>
    cases hinteger
    refine ⟨trivial, Float64.ofInt n.toInt, ?_, ?_⟩
    · rw [literalTokens?, if_neg (not_lt.mpr hnonneg)]
    · obtain ⟨k, hk⟩ := Int.eq_ofNat_of_zero_le hnonneg
      have hbound := Int64.toInt_lt n
      rw [hk]
      exact isNumeral_ofInt (by omega)
  | float x =>
    obtain ⟨k, hwhole, hclamp⟩ := Option.map_eq_some_iff.mp hinteger
    have hfinite := isFinite_of_whole? hwhole
    -- cutting off at 64 bits does not change the sign of a whole number
    have hsign : ¬x < 0 := by
      intro hlt
      have hk := whole?_neg_of_lt hwhole hlt
      have hmin : Int64.minValue.toInt = -2 ^ 63 := by decide
      have hmax : Int64.maxValue.toInt = 2 ^ 63 - 1 := by decide
      rw [← hclamp, Value.clampInt64, Int64.toInt_ofInt_of_le (by omega) (by omega)] at hnonneg
      omega
    refine ⟨hfinite, ?_⟩
    cases hzero : x == 0 with
    | true =>
      -- a zero with a sign is written without it
      have htext : Layout.positional.text 0 = ['0'] := by decide +kernel
      refine ⟨0, by simp [literalTokens?, hzero], ?_⟩
      rw [htext]
      exact ⟨List.cons_ne_nil _ _, by simp⟩
    | false =>
      refine ⟨x, by simp [literalTokens?, hzero, hsign], ?_⟩
      exact isNumeral_of_whole? (Float64.isPositive_of_not_lt hfinite hzero hsign) hwhole
  | _ => cases hinteger

theorem test_of_integer? {n : Int64} (hobject : s.isObject v = true) (hname : IsBareName name)
    (hmember : s.member? v name = some w) (hinteger : w.integer? = some n) (hn : 0 ≤ n) :
    s.test (Path.matchExpression name Document.integerPattern) "" v = true := by
  obtain ⟨hlegible, y, htokens, hne, hdigits⟩ := exists_numeral_of_integer? hinteger hn
  have hmatch : fullMatch? Document.integerPattern (numberText y) = some true := by
    have hinteger : Path.isInteger (Layout.positional.text y) = true := by
      rw [Path.isInteger, Bool.and_eq_true, List.all_eq_true]
      exact ⟨by simpa using hne, fun c hc => Path.isDigit_of_isDigit (hdigits c hc)⟩
    rw [Document.fullMatch?_integerPattern, numberText, String.toList_ofList, hinteger]
  exact test_matchExpression hobject hname hmember hlegible htokens (evaluateTokens_literal _ _)
    integerPattern_plain.1 hmatch

/-- A text that is read as a date is written into an expression as it is. -/
theorem literalTokens?_of_read? {text : String} {d : Date} (hread : Date.read? text = some d) :
    (Value.string text).Legible ∧ literalTokens? (.string text) = some [.string text] := by
  obtain ⟨hchars, hcount⟩ := Date.of_read? hread
  have hhyphen : '-' ∈ text.toList := List.count_pos_iff.mp (by omega)
  -- the words for true and false have no hyphen
  have hword : ∀ words : List (List Char), (∀ word ∈ words, '-' ∉ word) →
      isOneOf words text.toList = false := by
    intro words hwords
    rw [isOneOf, List.any_eq_false]
    intro word hword heq
    have hfold : fold '-' = '-' := by decide +kernel
    rw [beq_iff_eq] at heq
    exact hwords word hword (heq ▸ hfold ▸ List.mem_map_of_mem hhyphen)
  constructor
  · intro c hc
    have hdate := hchars c hc
    by_contra hdelimiter
    rw [Bool.not_eq_false, isDelimiter, Bool.or_eq_true, Bool.or_eq_true, beq_iff_eq, beq_iff_eq,
      beq_iff_eq] at hdelimiter
    rcases hdelimiter with (rfl | rfl) | rfl <;> exact absurd hdate (by decide)
  · rw [literalTokens?, hword truthyWords (by decide), hword falsyWords (by decide)]
    rfl

theorem test_of_read? {text : String} {d : Date} (hobject : s.isObject v = true)
    (hname : IsBareName name) (hmember : s.member? v name = some (.string text))
    (hread : Date.read? text = some d) :
    s.test (Path.matchExpression name Document.datePattern) "" v = Document.isPlainDate text := by
  obtain ⟨hlegible, htokens⟩ := literalTokens?_of_read? hread
  exact test_matchExpression hobject hname hmember hlegible htokens (evaluateTokens_literal _ _)
    datePattern_plain.1 (Document.fullMatch?_datePattern text)

end Tests

/-! ## What the two ways have in common -/

namespace Document

variable {d : Document} {h : Handle} {items : List Value} {name : String}

/-- What reads no container does not see whether objects are found below themselves. -/
theorem filterMap_found {β : Type} {f : Value → Option β}
    (hcontainer : ∀ g, f (.container g) = none) (s : Store) (items : List Value) (name : String) :
    (items.filterMap (s.memberBelow? name)).filterMap f =
      items.filterMap fun v => (s.member? v name).bind f := by
  rw [List.filterMap_filterMap]
  refine List.filterMap_congr fun v _ => ?_
  rw [Store.memberBelow?]
  cases hmember : s.member? v name with
  | none => rfl
  | some w =>
    cases hsame : w.same v with
    | false => simp [Option.filter, hsame]
    | true =>
      -- only containers have members, so the member is the container itself
      have hself : ∃ g, w = .container g := by
        cases v with
        | container g => cases w <;> first | exact ⟨_, rfl⟩ | cases hsame
        | _ => cases hmember
      obtain ⟨g, rfl⟩ := hself
      simp [Option.filter, hsame, hcontainer]

/-- A column of whole numbers has been taken from what the path finds, and nothing from zero upwards
has been left out. -/
theorem integerColumn_spec (hroot : d.root = .container h) (hcell : d.store.cell h = .array items)
    (hobjects : ∀ v ∈ items, d.store.isObject v = true) (hname : IsBareName name) :
    ∃ found kept, d.integers (columnPath name) = .ok found ∧ d.integerColumn name = .ok kept ∧
      kept.Sublist found ∧ kept.filter (0 ≤ ·) = found.filter (0 ≤ ·) := by
  let passes := d.store.test (Path.matchExpression name integerPattern) ""
  let read := fun v => (d.store.member? v name).bind Value.integer?
  refine ⟨items.filterMap read, (items.filter passes).filterMap read, ?_, ?_, ?_, ?_⟩
  · rw [integers, Document.find, hroot, find_columnPath hcell hobjects hname]
    exact congrArg Except.ok (filterMap_found (fun _ => rfl) d.store items name)
  · rw [integerColumn, membersOfRows_eq hroot hcell hobjects hname integerPattern_plain.2]
    exact congrArg Except.ok List.filterMap_filterMap
  · exact (List.filter_sublist).filterMap read
  · -- row by row: a row that does not pass has no number from zero upwards
    rw [List.filterMap_filter, List.filter_filterMap, List.filter_filterMap]
    refine List.filterMap_congr fun v hv => ?_
    dsimp only [read]
    cases hmember : d.store.member? v name with
    | none => simp
    | some w =>
      cases hinteger : w.integer? with
      | none => simp [hinteger]
      | some n =>
        by_cases hn : 0 ≤ n
        · have hpasses : passes v = true :=
            test_of_integer? (hobjects v hv) hname hmember hinteger hn
          simp [hpasses]
        · cases passes v <;> simp [Option.filter, hinteger, hn]

/-- The date that a value is read as, if its text is plain. -/
def plainDate? (s : Store) (w : Value) : Option Date :=
  if isPlainDate (s.display w) then Date.read? (s.display w) else none

theorem plainDate?_container (s : Store) (g : Handle) : plainDate? s (.container g) = none := by
  cases hread : Date.read? (s.display (.container g)) with
  | none => simp [plainDate?, hread]
  | some day =>
    obtain ⟨text, htext⟩ := Store.exists_string_of_read? hread
    cases htext

/-- The test lets the plain ones of those members through that are read as dates. -/
theorem bind_read?_of_test (s : Store) {v : Value} (hobject : s.isObject v = true)
    (hname : IsBareName name) :
    (if s.test (Path.matchExpression name datePattern) "" v
      then (s.member? v name).bind fun w => Date.read? (s.display w) else none) =
      (s.member? v name).bind (plainDate? s) := by
  cases hmember : s.member? v name with
  | none => simp
  | some w =>
    cases hread : Date.read? (s.display w) with
    | none => simp [plainDate?, hread]
    | some day =>
      obtain ⟨text, rfl⟩ := Store.exists_string_of_read? hread
      have hdisplay : s.display (.string text) = text := rfl
      simp only [test_of_read? hobject hname hmember hread, Option.bind_some, plainDate?, hdisplay]

/-- A column of dates has what the path finds in plain digits. -/
theorem dateColumn_spec (hroot : d.root = .container h) (hcell : d.store.cell h = .array items)
    (hobjects : ∀ v ∈ items, d.store.isObject v = true) (hname : IsBareName name) :
    ∃ texts, d.strings (columnPath name) = .ok texts ∧
      d.dates (columnPath name) = .ok (texts.filterMap Date.read?) ∧
      d.dateColumn name = .ok ((texts.filter isPlainDate).filterMap Date.read?) := by
  have hstrings : d.strings (columnPath name) =
      .ok ((items.filterMap (d.store.memberBelow? name)).map d.store.display) := by
    rw [strings, Document.find, hroot, find_columnPath hcell hobjects hname]
    rfl
  refine ⟨_, hstrings, ?_, ?_⟩
  · rw [dates, hstrings]
    rfl
  · have hplain : (((items.filterMap (d.store.memberBelow? name)).map d.store.display).filter
        isPlainDate).filterMap Date.read? =
        items.filterMap fun v => (d.store.member? v name).bind (plainDate? d.store) := by
      rw [List.filterMap_filter, List.filterMap_map]
      exact filterMap_found (plainDate?_container d.store) d.store items name
    rw [dateColumn, membersOfRows_eq hroot hcell hobjects hname datePattern_plain.2, hplain]
    refine congrArg Except.ok ?_
    dsimp only
    rw [List.filterMap_map, List.filterMap_filterMap, List.filterMap_filter]
    exact List.filterMap_congr fun v hv => bind_read?_of_test d.store (hobjects v hv) hname

/-- Let the root be an array of objects, and the name of a column be made of letters and digits of
ASCII and low lines.  Reading the column as whole numbers gives some of the numbers that the path of
the column gives, in their order, and all that are not below zero.  Reading it as dates gives the
dates of those texts that are plain digits with two hyphens among them. -/
theorem columns_agree (d : Document) (hroot : d.root = .container h)
    (hcell : d.store.cell h = .array items) (hobjects : ∀ v ∈ items, d.store.isObject v = true)
    (hname : IsBareName name) :
    (∃ found kept, d.integers (columnPath name) = .ok found ∧ d.integerColumn name = .ok kept ∧
      kept.Sublist found ∧ kept.filter (0 ≤ ·) = found.filter (0 ≤ ·)) ∧
    ∃ texts, d.strings (columnPath name) = .ok texts ∧
      d.dates (columnPath name) = .ok (texts.filterMap Date.read?) ∧
      d.dateColumn name = .ok ((texts.filter isPlainDate).filterMap Date.read?) :=
  ⟨integerColumn_spec hroot hcell hobjects hname, dateColumn_spec hroot hcell hobjects hname⟩

/-- Two rows, with a number that is kept as a floating-point number and both orders of dates. -/
theorem columns_agree_rows :
    let s : Store := ⟨#[.array [.container ⟨1⟩, .container ⟨2⟩],
      .object [("n", .integer 7), ("on", .string "2024-01-15")],
      .object [("n", .float 2), ("on", .string "15-02-2023")]]⟩
    let d : Document := ⟨s, .container ⟨0⟩⟩
    (∀ v ∈ [Value.container ⟨1⟩, .container ⟨2⟩], s.isObject v = true) ∧
      IsBareName "n" ∧ IsBareName "on" ∧
      (∃ kept, d.integerColumn "n" = .ok kept ∧ kept.filter (0 ≤ ·) = [7, 2]) ∧
      (d.dateColumn "on").map (List.map Date.text) = .ok ["2024-01-15", "2023-02-15"] := by
  intro s d
  have hobjects : ∀ v ∈ [Value.container ⟨1⟩, .container ⟨2⟩], s.isObject v = true := by decide
  have hname : IsBareName "n" := by decide +kernel
  have hon : IsBareName "on" := by decide +kernel
  obtain ⟨⟨found, kept, hfound, hkept, -, hagree⟩, -⟩ := columns_agree d rfl rfl hobjects hname
  obtain ⟨-, texts, htexts, -, hdates⟩ := columns_agree d rfl rfl hobjects hon
  have hintegers : d.integers (columnPath "n") = .ok [7, 2] := by decide +kernel
  have hstrings : d.strings (columnPath "on") = .ok ["2024-01-15", "15-02-2023"] := by
    decide +kernel
  rw [hintegers] at hfound
  rw [hstrings] at htexts
  cases hfound
  cases htexts
  refine ⟨hobjects, hname, hon, ⟨kept, hkept, hagree.trans (by decide)⟩, ?_⟩
  rw [hdates]
  decide +kernel

/-- A number below zero and a date with a sign are found along the path, and are not in the
column. -/
theorem columns_lose_signs :
    let s : Store := ⟨#[.array [.container ⟨1⟩],
      .object [("n", .integer (-5)), ("on", .string "-024-01-15")]]⟩
    let d : Document := ⟨s, .container ⟨0⟩⟩
    (d.integers (columnPath "n") = .ok [-5] ∧ d.integerColumn "n" = .ok []) ∧
      (d.dates (columnPath "on")).map (List.map Date.text) = .ok ["-0024-01-15"] ∧
      d.dateColumn "on" = .ok [] := by
  intro s d
  have hobjects : ∀ v ∈ [Value.container ⟨1⟩], s.isObject v = true := by decide
  have hname : IsBareName "n" := by decide +kernel
  have hon : IsBareName "on" := by decide +kernel
  refine ⟨⟨by decide +kernel, ?_⟩, by decide +kernel, ?_⟩
  · -- the number goes into the expression as a difference, and its text begins with a sign
    have hsign : Path.isInteger (numberText (0 - Float64.ofInt 5)).toList = false := by
      decide +kernel
    have hmatch : fullMatch? integerPattern (numberText (0 - Float64.ofInt 5)) = some false := by
      rw [fullMatch?_integerPattern, hsign]
    have hmember : s.member? (.container ⟨1⟩) "n" = some (.integer (-5)) := rfl
    have htokens : literalTokens? (.integer (-5)) = some (negatedTokens (Float64.ofInt 5)) := rfl
    have htest : s.test (Path.matchExpression "n" integerPattern) "" (.container ⟨1⟩) = false :=
      test_matchExpression (hobjects _ List.mem_cons_self) hname hmember trivial htokens
        (evaluateTokens_negated _ _) integerPattern_plain.1 hmatch
    rw [integerColumn, membersOfRows_eq (h := ⟨0⟩) rfl rfl hobjects hname integerPattern_plain.2,
      List.filter_cons_of_neg (by rw [htest]; decide)]
    rfl
  · obtain ⟨texts, htexts, -, hdates⟩ := dateColumn_spec (d := d) rfl rfl hobjects hon
    have hstrings : d.strings (columnPath "on") = .ok ["-024-01-15"] := by decide +kernel
    rw [hstrings] at htexts
    cases htexts
    rw [hdates]
    decide +kernel

end Document

end DocQuery
