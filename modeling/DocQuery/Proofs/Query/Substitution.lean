import Mathlib
import DocQuery.Proofs.Query.Literal
import DocQuery.Proofs.Query.Template

/-!
# Substitution in Filters

A filter replaces every reference by a literal, as text, and evaluates the text that results.  This
is the same as evaluating the tokens of the expression, with each reference bound to the tokens of
its value.  The expression is a row of terms with single spaces between them.

## Main definitions

- `Term`: an item of an expression as it is written, a token or a reference
- `rowText`: the text of a row of terms
- `Holds`: the expression is true of an element, by its tokens

## Main statements

- `test_rowText`: an element is tested as its bound tokens are evaluated
- `filter_rowText`: what a filter keeps
-/

namespace DocQuery

open DocQuery.Text DocQuery.Decimal DocQuery.Expression
open DocQuery.Path (Ends ends_nil ends_cons isBareChar IsBareName isWord_of_isBareChar
  ne_of_holds)

/-! ## Terms -/

/-- An item of an expression as it is written. -/
inductive Term where
  /-- A number, by the digits before and behind the point -/
  | number (whole fraction : List Char)
  /-- A text between quotes -/
  | string (text : List Char)
  /-- A bare word, which does not begin with a digit -/
  | word (name : String)
  /-- An operator, in one of its spellings -/
  | operator (spelling : List Char) (op : Operator)
  | leftParen
  | rightParen
  /-- A reference to a member -/
  | reference (name : String)

namespace Term

/-- The term can be written as it is. -/
def Writable : Term → Prop
  | number whole fraction => IsFixed whole fraction
  | string text => ∀ c ∈ text, isDelimiter c = false ∧ c ≠ '@'
  | word name => IsBareName name ∧ ∀ c ∈ name.toList.head?, c.isDigit = false
  | operator spelling op => Cursor.operator? spelling = some (op, spelling.length)
  | leftParen | rightParen => True
  | reference name => IsBareName name

/-- How the term is written. -/
def text : Term → List Char
  | number whole fraction => fixedText whole fraction
  | string text => Cursor.quote :: (text ++ [Cursor.quote])
  | word name => name.toList
  | operator spelling _ => spelling
  | leftParen => ['(']
  | rightParen => [')']
  | reference name => '@' :: '.' :: name.toList

end Term

/-- The terms of an expression with single spaces between them. -/
def rowText (terms : List Term) : String := String.ofList (join [' '] (terms.map Term.text))

/-- The tokens of a term, where references are bound by `env`. -/
def Term.tokens (env : String → Option Value) : Term → List Token
  | .number whole fraction => [.number (ofFixed whole fraction)]
  | .string text => [.string (String.ofList text)]
  | .word name => [.word name]
  | .operator _ op => [.operator op]
  | .leftParen => [.leftParen]
  | .rightParen => [.rightParen]
  | .reference name => ((env name).bind literalTokens?).getD []

/-- All references are bound to truth values, numbers and strings, and the tokens are true. -/
def Holds (env : String → Option Value) (terms : List Term) : Prop :=
  (∀ name, Term.reference name ∈ terms → ∃ v, env name = some v ∧ v.isPrimitive = true) ∧
    evaluateTokens (terms.flatMap (Term.tokens env)) = .ok true

/-! ## Filling a row -/

section Row

variable {env : String → Option Value} {find? : List Char → Option (List Char)} {terms : List Term}
  {t : Term}

/-- The text of a term after references have been replaced. -/
def Term.filled? (find? : List Char → Option (List Char)) : Term → Option (List Char)
  | reference name => find? name.toList
  | t => some t.text

theorem at_notMem_fixedText {whole fraction : List Char} (hfixed : IsFixed whole fraction) :
    '@' ∉ fixedText whole fraction := by
  intro hmem
  rcases mem_fixedText hfixed hmem with heq | hdigit
  · cases heq
  · exact absurd hdigit (by decide)

/-- A term in front of a text is filled on its own. -/
theorem fill?_text (ht : t.Writable) {rest : List Char} (hrest : Ends isWord rest) :
    Template.fill? find? (Template.parts (t.text ++ rest)) = (do
      let text ← t.filled? find?
      let more ← Template.fill? find? (Template.parts rest)
      return text ++ more) := by
  -- a term without the sign of a reference is left as it is, so only a reference is looked up
  have hplain : '@' ∉ t.text → t.filled? find? = some t.text →
      Template.fill? find? (Template.parts (t.text ++ rest)) = (do
        let text ← t.filled? find?
        let more ← Template.fill? find? (Template.parts rest)
        return text ++ more) := by
    intro hat hfilled
    rw [Template.fill?_parts_append hat, hfilled]
    cases Template.fill? find? (Template.parts rest) <;> rfl
  have hbare : ∀ {name : String}, IsBareName name → '@' ∉ name.toList := by
    intro name hname hmem
    exact ne_of_holds (hname.2 '@' hmem) (by decide) rfl
  cases t with
  | number whole fraction => exact hplain (at_notMem_fixedText ht) rfl
  | string text =>
    apply hplain _ rfl
    intro hmem
    simp only [Term.text, List.mem_cons, List.mem_append, List.not_mem_nil, or_false] at hmem
    rcases hmem with heq | hmem | heq
    · exact absurd heq (by decide)
    · exact (ht '@' hmem).2 rfl
    · exact absurd heq (by decide)
  | word name => exact hplain (hbare ht.1) rfl
  | operator spelling op =>
    apply hplain _ rfl
    intro hmem
    exact absurd (mem_operatorChars ht hmem) (by decide)
  | leftParen => exact hplain (by decide) rfl
  | rightParen => exact hplain (by decide) rfl
  | reference name =>
    exact Template.fill?_parts_reference ht.1 (fun c hc => isWord_of_isBareChar (ht.2 c hc)) hrest

/-- A row is filled term by term. -/
theorem fill?_row (hterms : ∀ t ∈ terms, t.Writable) :
    Template.fill? find? (Template.parts (join [' '] (terms.map Term.text))) =
      (terms.mapM (Term.filled? find?)).map (join [' ']) := by
  have hspace : isWord ' ' = false := isWord_eq_of_lt (by decide)
  induction terms with
  | nil => simp [join, Template.parts, Template.fill?]
  | cons t terms ih =>
    have ht : t.Writable := hterms t List.mem_cons_self
    have hrow := ih fun u hu => hterms u (List.mem_cons_of_mem t hu)
    cases terms with
    | nil =>
      rw [List.map_singleton, join, ← List.append_nil t.text, fill?_text ht (ends_nil isWord)]
      cases hfilled : t.filled? find? <;> simp [hfilled, Template.parts, Template.fill?, join]
    | cons u terms =>
      have hsplit : join [' '] ((t :: u :: terms).map Term.text) =
          t.text ++ ' ' :: join [' '] ((u :: terms).map Term.text) := by
        simp only [List.map_cons, join_cons_cons]
        simp
      have hat : '@' ∉ [' '] := by decide
      have hblank : Template.fill? find?
          (Template.parts (' ' :: join [' '] ((u :: terms).map Term.text))) =
          (Template.fill? find? (Template.parts (join [' '] ((u :: terms).map Term.text)))).map
            ([' '] ++ ·) := Template.fill?_parts_append hat _
      have hmap : (t :: u :: terms).mapM (Term.filled? find?) = (do
          let text ← t.filled? find?
          let texts ← (u :: terms).mapM (Term.filled? find?)
          return text :: texts) := List.mapM_cons
      rw [hsplit, fill?_text ht (ends_cons hspace _), hblank, hrow, hmap]
      cases t.filled? find? with
      | none => rfl
      | some text =>
        cases hmore : (u :: terms).mapM (Term.filled? find?) with
        | none => rfl
        | some texts =>
          -- the row that is left has a first term, so a space stands in front of it
          obtain ⟨first, -, more, -, rfl⟩ : ∃ first, u.filled? find? = some first ∧
              ∃ more, terms.mapM (Term.filled? find?) = some more ∧ first :: more = texts := by
            simpa [List.mapM_cons, Option.bind_eq_some_iff] using hmore
          simp [join_cons_cons]

/-- A row of texts with spaces between them has the tokens of all of them. -/
theorem spells_row {css : List (List Char)} {tss : List (List Token)}
    (h : List.Forall₂ Spells css tss) : Spells (join [' '] css) tss.flatten := by
  induction h with
  | nil => exact ⟨fun _ hread => hread, fun c hc => absurd hc List.not_mem_nil⟩
  | @cons cs ts css tss hcs hrow ih =>
    cases hrow with
    | nil => simpa [join] using hcs
    | @cons ds us css tss hds hrow =>
      rw [join_cons_cons]
      constructor
      · intro rest more hrest hread
        have hreads := hcs.reads (apart_space _) (ih.reads hrest hread).space
        simpa using hreads
      · intro c hc
        simp only [List.append_assoc, List.mem_append, List.mem_singleton] at hc
        rcases hc with hc | rfl | hc
        · exact hcs.no_bracket c hc
        · decide
        · exact ih.no_bracket c hc

/-- Where all references are bound, every term is filled, with the tokens of the term. -/
theorem exists_filled_row (find? : List Char → Option (List Char))
    (hterms : ∀ t ∈ terms, t.Writable)
    (hfind : ∀ name, find? name.toList = (env name).bind literal?)
    (hbound : ∀ name, Term.reference name ∈ terms → ∃ v, env name = some v ∧ v.isPrimitive = true)
    (hlegible : ∀ name v, Term.reference name ∈ terms → env name = some v → v.Legible) :
    ∃ css, terms.mapM (Term.filled? find?) = some css ∧
      List.Forall₂ Spells css (terms.map (Term.tokens env)) := by
  induction terms with
  | nil => exact ⟨[], rfl, .nil⟩
  | cons t terms ih =>
    obtain ⟨css, hcss, hrow⟩ := ih (fun u hu => hterms u (List.mem_cons_of_mem t hu))
      (fun name hname => hbound name (List.mem_cons_of_mem t hname))
      (fun name v hname => hlegible name v (List.mem_cons_of_mem t hname))
    have ht : t.Writable := hterms t List.mem_cons_self
    -- only a reference depends on what is bound; the other terms spell themselves
    obtain ⟨cs, hcs, hspells⟩ : ∃ cs, t.filled? find? = some cs ∧ Spells cs (t.tokens env) := by
      cases t with
      | number whole fraction => exact ⟨_, rfl, spells_number ht⟩
      | string text => exact ⟨_, rfl, spells_string fun c hc => (ht c hc).1⟩
      | word name => exact ⟨_, rfl, spells_word ht.1 ht.2⟩
      | operator spelling op => exact ⟨_, rfl, spells_operator ht⟩
      | leftParen => exact ⟨_, rfl, ⟨fun _ h => h.leftParen, by simp [Term.text]⟩⟩
      | rightParen => exact ⟨_, rfl, ⟨fun _ h => h.rightParen, by simp [Term.text]⟩⟩
      | reference name =>
        obtain ⟨v, hv, hprimitive⟩ := hbound name List.mem_cons_self
        obtain ⟨cs, hcs⟩ : ∃ cs, literal? v = some cs := by
          cases v <;> first | exact ⟨_, rfl⟩ | cases hprimitive
        obtain ⟨ts, hts, hspells⟩ := spells_literal (hlegible name v List.mem_cons_self hv) hcs
        refine ⟨cs, ?_, ?_⟩
        · rw [Term.filled?, hfind, hv]
          exact hcs
        · rw [Term.tokens, hv, Option.bind_some, hts]
          exact hspells
    refine ⟨cs :: css, ?_, .cons hspells hrow⟩
    rw [List.mapM_cons, hcs, hcss]
    rfl

/-- Where some reference is not bound, the row is not filled. -/
theorem filled_row_eq_none {t : Term} (ht : t ∈ terms) (hnone : t.filled? find? = none) :
    terms.mapM (Term.filled? find?) = none := by
  induction ht with
  | head terms =>
    rw [List.mapM_cons, hnone]
    rfl
  | tail u _ ih =>
    rw [List.mapM_cons, ih]
    cases u.filled? find? <;> rfl

end Row

/-! ## Testing elements -/

section Testing

variable {s : Store} {key : String} {v : Value} {env : String → Option Value} {terms : List Term}

/-- Where all references are bound, the text for an element has the truth value of the tokens. -/
theorem instantiate?_rowText (hterms : ∀ t ∈ terms, t.Writable)
    (hfind : ∀ name, (s.referent? key v name.toList).bind literal? = (env name).bind literal?)
    (hbound : ∀ name, Term.reference name ∈ terms → ∃ w, env name = some w ∧ w.isPrimitive = true)
    (hlegible : ∀ name w, Term.reference name ∈ terms → env name = some w → w.Legible) :
    ∃ text, s.instantiate? (rowText terms) key v = some text ∧
      evaluate text = evaluateTokens (terms.flatMap (Term.tokens env)) := by
  obtain ⟨css, hcss, hrow⟩ := exists_filled_row
    (fun name => (s.referent? key v name).bind literal?) hterms hfind hbound hlegible
  have hspells := spells_row hrow
  -- there are no brackets that could be taken out
  have hclean : (join [' '] css).filter (fun c => c != '[' && c != ']') = join [' '] css := by
    rw [List.filter_eq_self]
    intro c hc
    simpa using hspells.no_bracket c hc
  refine ⟨String.ofList (join [' '] css), ?_, ?_⟩
  · rw [Store.instantiate?, rowText, String.toList_ofList, fill?_row hterms, hcss, Option.map_some,
      Option.map_some, hclean]
  · apply evaluate_of_reads
    have hread := hspells.reads apart_nil reads_nil
    rw [List.append_nil, List.append_nil, ← List.flatMap_def] at hread
    rwa [String.toList_ofList]

/-- Where a reference is bound to no value that has a literal, there is no text for an element. -/
theorem instantiate?_rowText_eq_none (hterms : ∀ t ∈ terms, t.Writable)
    (hfind : ∀ name, (s.referent? key v name.toList).bind literal? = (env name).bind literal?)
    {name : String} (hmem : Term.reference name ∈ terms)
    (hunbound : ¬∃ w, env name = some w ∧ w.isPrimitive = true) :
    s.instantiate? (rowText terms) key v = none := by
  have hnone : Term.filled? (fun name => (s.referent? key v name).bind literal?)
      (.reference name) = none := by
    show (s.referent? key v name.toList).bind literal? = none
    rw [hfind]
    cases hv : env name with
    | none => rfl
    | some w =>
      cases w <;> first | rfl | exact absurd ⟨_, hv, rfl⟩ hunbound
  rw [Store.instantiate?, rowText, String.toList_ofList, fill?_row hterms,
    filled_row_eq_none hmem hnone]
  rfl

/-- An element is tested as the tokens of the expression are evaluated when every reference is
bound to the tokens of the value that it means. -/
theorem test_rowText (hterms : ∀ t ∈ terms, t.Writable)
    (hfind : ∀ name, (s.referent? key v name.toList).bind literal? = (env name).bind literal?)
    (hlegible : ∀ name w, Term.reference name ∈ terms → env name = some w → w.Legible) :
    s.test (rowText terms) key v = true ↔ Holds env terms := by
  rw [Store.test]
  by_cases hbound : ∀ name, Term.reference name ∈ terms →
      ∃ w, env name = some w ∧ w.isPrimitive = true
  · obtain ⟨text, htext, hevaluate⟩ := instantiate?_rowText hterms hfind hbound hlegible
    rw [htext]
    simp only [hevaluate]
    constructor
    · intro htrue
      refine ⟨hbound, ?_⟩
      -- an expression with a defect is not true
      cases hresult : evaluateTokens (terms.flatMap (Term.tokens env)) with
      | error e => rw [hresult] at htrue; cases htrue
      | ok keep =>
        rw [hresult] at htrue
        rw [show keep = true from htrue]
    · rintro ⟨-, hholds⟩
      rw [hholds]
  · simp only [not_forall] at hbound
    obtain ⟨name, hmem, hunbound⟩ := hbound
    rw [instantiate?_rowText_eq_none hterms hfind hmem hunbound]
    constructor
    · intro htrue
      exact absurd htrue Bool.false_ne_true
    · intro hholds
      exact absurd (hholds.1 name hmem) hunbound

/-! ## Filtering -/

/-- What references mean in an element of an array: the members of an object, and for anything else
only the number of its place means the element. -/
def elementEnv (s : Store) (i : Nat) (v : Value) (name : String) : Option Value :=
  if s.isObject v then s.member? v name else if name = Nat.repr i then some v else none

theorem referent?_element (s : Store) (i : Nat) (v : Value) (name : String) :
    (s.referent? (Nat.repr i) v name.toList).bind literal? =
      (elementEnv s i v name).bind literal? := by
  unfold Store.referent? elementEnv
  rw [String.ofList_toList]
  split
  · rfl
  · have hkey : Nat.repr i ≠ "" := by
      intro hempty
      have hdigits : natText i = [] := by
        rw [natText, ← Nat.toList_repr, hempty]
        rfl
      exact Nat.toDigits_ne_nil hdigits
    by_cases hname : name = Nat.repr i
    · subst hname
      cases v <;> simp [hkey, Value.isPrimitive, literal?]
    · have hother : name.toList ≠ (Nat.repr i).toList := by
        rwa [ne_eq, String.toList_inj]
      rw [beq_false_of_ne hother, Bool.and_false, if_neg Bool.false_ne_true, if_neg hname]

/-- A filter keeps an object exactly if the expression holds of its members.  Of an array it keeps
the elements, in their order, that are no arrays and of which the expression holds: objects by
their members, and anything else by the number of its place. -/
theorem filter_rowText (hterms : ∀ t ∈ terms, t.Writable) (s : Store) (h : Handle) :
    (∀ members, s.cell h = .object members →
      (∀ name w, Term.reference name ∈ terms → members.get? name = some w → w.Legible) →
        (Holds members.get? terms → s.filter (rowText terms) (.container h) = [.container h]) ∧
          (¬Holds members.get? terms → s.filter (rowText terms) (.container h) = [])) ∧
    ∀ items, s.cell h = .array items →
      ∃ keep : Nat → Bool,
        s.filter (rowText terms) (.container h) =
          (items.zipIdx.filter fun item => keep item.2).map Prod.fst ∧
        ∀ i v, items[i]? = some v →
          (∀ name w, Term.reference name ∈ terms → elementEnv s i v name = some w → w.Legible) →
            (keep i = true ↔ s.isArray v = false ∧ Holds (elementEnv s i v) terms) := by
  constructor
  · intro members hcell hlegible
    have hobject : s.isObject (.container h) = true := by
      simp only [Store.isObject, hcell]
    have hfind : ∀ name, (s.referent? "" (.container h) name.toList).bind literal? =
        (members.get? name).bind literal? := by
      intro name
      simp only [Store.referent?, hobject, if_true, Store.member?, hcell, String.ofList_toList]
    have htest := test_rowText hterms hfind hlegible
    simp only [Store.filter, hcell]
    constructor
    · intro hholds
      rw [if_pos (htest.mpr hholds)]
    · intro hfails
      rw [if_neg (mt htest.mp hfails)]
  · intro items hcell
    refine ⟨fun i => items[i]?.any fun v =>
      !s.isArray v && s.test (rowText terms) (Nat.repr i) v, ?_, ?_⟩
    · rw [Store.filter_array hcell]
      -- a pair of an element and its place is tested by the place alone
      apply congrArg (List.map Prod.fst)
      apply List.filter_congr
      rintro ⟨v, i⟩ hitem
      dsimp only
      rw [List.mem_zipIdx_iff_getElem?.mp hitem]
      rfl
    · intro i v hitem hlegible
      have htest := test_rowText hterms (referent?_element s i v) hlegible
      dsimp only
      rw [hitem]
      simp [htest]

/-- An object with a negative number, and an array where a word is meant by its place. -/
theorem filter_rowText_bound :
    let s : Store := ⟨#[.object [("a", .float (-1.5))], .array [.integer (-3), .string "Yes"]]⟩
    s.filter (rowText [.reference "a", .operator ['<'] (.binary .less), .number ['0'] ['5']])
        (.container ⟨0⟩) = [.container ⟨0⟩] ∧
      s.filter (rowText [.reference "1"]) (.container ⟨1⟩) = [.string "Yes"] := by
  intro s
  have hcompare : ∀ t ∈ [Term.reference "a", .operator ['<'] (.binary .less), .number ['0'] ['5']],
      t.Writable := by
    intro t ht
    simp only [List.mem_cons, List.not_mem_nil, or_false] at ht
    rcases ht with rfl | rfl | rfl
    · exact ⟨by simp, by simp [isBareChar, Char.isAlphanum, Char.isAlpha, Char.isLower]⟩
    · rfl
    · exact ⟨by simp, by simp, by simp⟩
  have hplace : ∀ t ∈ [Term.reference "1"], t.Writable := by
    intro t ht
    rw [List.mem_singleton.mp ht]
    exact ⟨by simp, by simp [isBareChar, Char.isAlphanum, Char.isDigit]⟩
  constructor
  · -- the object is tested as a whole
    apply ((filter_rowText hcompare s ⟨0⟩).1 [("a", .float (-1.5))] rfl _).1
    · constructor
      · intro name hname
        obtain rfl : name = "a" := by simpa using hname
        exact ⟨_, rfl, rfl⟩
      · decide +kernel
    · intro name w hname hw
      obtain rfl : name = "a" := by simpa using hname
      cases hw
      show (-1.5 : Float).isFinite = true
      decide +kernel
  · -- in the array each element is tested; the first one has nothing at place 1
    obtain ⟨keep, hfilter, hkeep⟩ := (filter_rowText hplace s ⟨1⟩).2 _ rfl
    have hfirst : keep 0 = false := by
      rw [← Bool.not_eq_true, hkeep 0 (.integer (-3)) rfl]
      · rintro ⟨-, hbound, -⟩
        obtain ⟨v, hv, -⟩ := hbound "1" List.mem_cons_self
        cases hv
      · intro name w hname hw
        obtain rfl : name = "1" := by simpa using hname
        cases hw
    have hsecond : keep 1 = true := by
      rw [hkeep 1 (.string "Yes") rfl]
      · refine ⟨rfl, ?_, ?_⟩
        · intro name hname
          obtain rfl : name = "1" := by simpa using hname
          exact ⟨_, rfl, rfl⟩
        · show evaluateTokens (literalTokens? (.string "Yes")).get! = .ok true
          decide +kernel
      · intro name w hname hw
        obtain rfl : name = "1" := by simpa using hname
        cases hw
        show ∀ c ∈ "Yes".toList, isDelimiter c = false
        simp [isDelimiter, Cursor.quote]
    rw [hfilter]
    simp [hfirst, hsecond]

end Testing

end DocQuery
