import Mathlib
import DocQuery.Pattern.Bracket
import DocQuery.Proofs.Pattern.Escape

/-!
# Bracket Expressions at the End of a Text
-/

namespace DocQuery.Pattern

open DocQuery.Text Take

namespace Flags

theorem peekFrom_append (inComment : Bool) (cs back : List Char) :
    peekFrom inComment (cs ++ ')' :: back) = (peekFrom inComment cs).or (some ')') := by
  induction cs generalizing inComment with
  | nil => simp [peekFrom]
  | cons c rest ih =>
    simp only [List.cons_append, peekFrom]
    split_ifs
    · exact ih _
    · exact ih _
    · rfl

/-- A look ahead does not take a parenthesis for a hyphen or a closing bracket. -/
theorem peek?_append (f : Flags) {t : Char} (ht : t = ']' ∨ t = '-') (cs back : List Char) :
    f.peek? (cs ++ ')' :: back) = some t ↔ f.peek? cs = some t := by
  have ht' : ')' ≠ t := by
    obtain rfl | rfl := ht <;> decide
  cases cs with
  | nil => cases hspaced : f.spaced <;> simp [peek?, hspaced, peekFrom, ht']
  | cons c rest =>
    simp only [peek?, peekFrom_append]
    split
    · cases hpeek : peekFrom false (c :: rest) with
      | some d => simp
      | none =>
        -- Only blanks and the sign of a comment are looked past.
        have : c ≠ t := by
          rintro rfl
          have : isSpace c = false ∧ c ≠ '#' := by
            obtain rfl | rfl := ht <;> decide
          simp [peekFrom, this] at hpeek
        simp [ht', this]
    · simp

end Flags

namespace Take

/-- The start of a bracket behind its negation: hyphens, or a closing bracket that stands for
itself. -/
def opened (f : Flags) (negated : Bool) : Take (Bool × Bracket.Union) := do
  let hyphens ← taking f (· == '-')
  let u := hyphens.foldl (fun u _ => Bracket.Union.push u (f.literal '-')) ({} : Bracket.Union)
  more
  if u.count = 0 then
    onNext ']'
      (do
        skip f
        more
        return (negated, u.push (f.literal ']')))
      (return (negated, u))
  else return (negated, u)

/-- The start of a bracket. -/
def opening (f : Flags) : Take (Bool × Bracket.Union) := do
  skip f
  onNext '^'
    (do
      skip f
      opened f true)
    (opened f false)

/-- One item: an escape, or a character that stands for itself. -/
def item (f : Flags) : Take Escape := do
  let c ← next
  if c = '\\' then Escape.read f else return .literal c

/-- The set for an item that is no end of a range. -/
def alone? (f : Flags) : Escape → Option CodePointSet
  | .literal c | .byte c => Bracket.single? f c
  | .set s => some s
  | .assertion _ => none

/-- The set for a range. -/
def between? (f : Flags) (first second : Escape) : Option CodePointSet :=
  match first.character?, second.character? with
  | some a, some b =>
    if a ≤ b ∧ (f.unicode ∨ b.toNat < 128) then some (.range a b) else none
  | _, _ => none

/-- Whether a range goes on behind its first end. -/
def hyphenFollows (f : Flags) (cs : List Char) : Bool :=
  cs.head? == some '-' && f.peek? cs.tail != some ']' && f.peek? cs.tail != some '-'

/-- What may follow an item. -/
def behindItem (f : Flags) (first : Escape) : Take CodePointSet := do
  skip f
  more
  if ← look (hyphenFollows f) then
    let _ ← next
    skip f
    let second ← item f
    lift (between? f first second)
  else lift (alone? f first)

/-- A range or a single item. -/
def range (f : Flags) : Take CodePointSet := do
  let first ← item f
  behindItem f first

/-- What one construct inside brackets leads to: the whole expression, or what waits and the
list so far. -/
abbrev Turn := Bracket.Part ⊕ List Bracket.Frame × Bracket.Union

/-- A named set or a bracket inside the list `u`. -/
def nested (f : Flags) (frames : List Bracket.Frame) (u : Bracket.Union) : Take Turn := fun cs =>
  match Bracket.readNamed f cs with
  | some (some s, left) => some (.inr (frames, u.push s), left)
  | some (none, _) => none
  | none => (do
      let (negated, inner) ← opening f
      return .inr (.opened u negated :: frames, inner) : Take Turn) cs

/-- The end of a bracket. -/
def closed (f : Flags) (frames : List Bracket.Frame) (u : Bracket.Union) : Take Turn :=
  match Bracket.settle f u.part frames with
  | (part, .opened outer negated :: frames) => do
    let s ← lift (f.checked? ((f.foldCase part.set).negateIf negated))
    if frames.isEmpty then return .inl ⟨s, part.depth + 1⟩
    else return .inr (frames, outer.push s (part.depth + 1))
  | _ => failure

/-- The operation that comes next. -/
def operation? : List Char → Option Bracket.Operation
  | '&' :: '&' :: _ => some .intersection
  | '-' :: '-' :: _ => some .difference
  | '~' :: '~' :: _ => some .symmetricDifference
  | _ => none

/-- An operation, which is written by two characters. -/
def operator (f : Flags) (frames : List Bracket.Frame) (u : Bracket.Union)
    (op : Bracket.Operation) : Take Turn := do
  let _ ← next
  let _ ← next
  return .inr (.operation op (Bracket.settle f u.part frames).1 ::
    (Bracket.settle f u.part frames).2, {})

/-- One construct inside brackets. -/
def turn (f : Flags) (frames : List Bracket.Frame) (u : Bracket.Union) : Take Turn := do
  skip f
  onNext '[' (nested f frames u) (onNext ']' (closed f frames u) (do
    match ← look operation? with
    | some op => operator f frames u op
    | none =>
      let s ← range f
      return .inr (frames, u.push s)))

end Take

namespace Bracket

theorem item_eq (f : Flags) : item f = readItem f := by
  funext cs
  cases cs with
  | nil => rfl
  | cons c rest =>
    by_cases hc : c = '\\'
    · subst hc
      rfl
    · simp [item, readItem, hc]

theorem opened_apply (f : Flags) (negated : Bool) (cs : List Char) :
    (opened f negated cs).map (fun ((negated, u), left) => (negated, u, left)) =
      (let hyphens := f.takeWhile (· == '-') cs
      let u := hyphens.1.foldl (fun u _ => Union.push u (f.literal '-')) ({} : Union)
      match hyphens.2 with
      | [] => none
      | ']' :: rest =>
        if u.count = 0 then
          match f.skip rest with
          | [] => none
          | cs => some (negated, u.push (f.literal ']'), cs)
        else some (negated, u, hyphens.2)
      | _ => some (negated, u, hyphens.2)) := by
  simp only [opened, bind_apply, taking_apply, Option.bind_some, more]
  generalize f.takeWhile (· == '-') cs = found
  obtain ⟨hyphens, _ | ⟨c, rest⟩⟩ := found
  · rfl
  · simp only [reduceCtorEq, ↓reduceIte, Option.bind_some]
    generalize hyphens.foldl _ _ = u
    by_cases hc : c = ']'
    · subst hc
      by_cases hu : u.count = 0
      · simp only [hu, ↓reduceIte, onNext_same, bind_apply, skip_apply, Option.bind_some]
        rcases f.skip rest with _ | ⟨d, left⟩ <;> rfl
      · simp [hu]
    · by_cases hu : u.count = 0 <;> simp [hc, hu]

theorem opening_apply (f : Flags) (cs : List Char) :
    openBracket f cs = (opening f cs).map fun ((negated, u), left) => (negated, u, left) := by
  simp only [openBracket, opening, bind_apply, skip_apply, Option.bind_some]
  rcases f.skip cs with _ | ⟨c, rest⟩
  · exact (opened_apply f false []).symm
  · by_cases hc : c = '^'
    · subst hc
      simp only [onNext_same, bind_apply, skip_apply, Option.bind_some]
      exact (opened_apply f true (f.skip rest)).symm
    · simp only [ne_eq, hc, not_false_eq_true, onNext_of_ne]
      rw [opened_apply f false (c :: rest)]
      split
      next heq => exact absurd (List.cons.inj heq).1 hc
      next => rfl

theorem range_eq (f : Flags) : range f = readRange f := by
  funext cs
  simp only [range, readRange, bind_apply, item_eq, Option.bind_eq_bind]
  cases readItem f cs with
  | none => rfl
  | some found =>
    obtain ⟨first, mid⟩ := found
    simp only [Option.bind_some, behindItem, bind_apply, skip_apply, more, look_apply, item_eq]
    rcases f.skip mid with _ | ⟨c, rest⟩
    · rfl
    · by_cases hc : c ≠ '-' ∨ f.peek? rest = some ']' ∨ f.peek? rest = some '-'
      · have ends : hyphenFollows f (c :: rest) = false := by
          simp only [hyphenFollows, List.head?_cons, List.tail_cons]
          grind
        cases first <;> simp [alone?, ends, hc]
      · have goes : hyphenFollows f (c :: rest) = true := by
          simp only [hyphenFollows, List.head?_cons, List.tail_cons]
          grind
        simp [goes, hc]
        refine congrArg _ (funext fun x => ?_)
        rcases h : first.character? with _ | a
        · simp [between?, h]
        · rcases h' : x.1.character? with _ | b
          · simp [between?, h, h']
          · simp only [between?, h, h']
            split <;> rfl

/-- No named set has a parenthesis in its name. -/
theorem closing_not_mem_of_posix? {name : List Char}
    (h : NamedSet.posix? (String.ofList name) ≠ none) : ')' ∉ name := by
  simp only [NamedSet.posix?] at h
  split at h
  case h_15 => exact absurd rfl h
  all_goals
    rename_i heq
    have := congrArg String.toList heq
    simp at this
    simp [this]

/-- The name of a set behind `[:`, up to `:]`. -/
def namedUpTo (f : Flags) (negated : Bool) (cs : List Char) :
    Option (Option CodePointSet × List Char) :=
  match cs.dropWhile (· != ':') with
  | ':' :: ']' :: rest =>
    (NamedSet.posix? (String.ofList (cs.takeWhile (· != ':')))).map fun s =>
      (f.checked? ((f.foldCase s).negateIf negated), rest)
  | _ => none

theorem namedUpTo_colon (f : Flags) (negated : Bool) {name : List Char} (hname : ':' ∉ name)
    (cs : List Char) :
    namedUpTo f negated (name ++ ':' :: cs) =
      match cs with
      | ']' :: rest =>
        (NamedSet.posix? (String.ofList name)).map fun s =>
          (f.checked? ((f.foldCase s).negateIf negated), rest)
      | _ => none := by
  have all : ∀ c ∈ name, (c != ':') = true := by
    intro c hc
    simpa using ne_of_mem_of_not_mem hc hname
  simp only [namedUpTo, List.dropWhile_append_of_pos all, List.takeWhile_append_of_pos all]
  rcases cs with _ | ⟨c, rest⟩
  · rfl
  · by_cases hc : c = ']'
    · subst hc
      simp
    · simp [hc]

theorem namedUpTo_append (f : Flags) (negated : Bool) (cs back : List Char) :
    namedUpTo f negated (cs ++ ')' :: back) =
      (namedUpTo f negated cs).map fun (s, left) => (s, left ++ ')' :: back) := by
  by_cases colon : ':' ∈ cs
  · obtain ⟨name, rest, rfl, hname⟩ := List.eq_append_cons_of_mem colon
    rw [List.append_assoc, List.cons_append, namedUpTo_colon f negated hname,
      namedUpTo_colon f negated hname]
    rcases rest with _ | ⟨c, rest⟩
    · rfl
    · by_cases hc : c = ']'
      · subst hc
        simp [Function.comp_def]
      · simp [hc]
  · -- The name would go on behind the parenthesis.
    have all : ∀ c ∈ cs, (c != ':') = true := by
      intro c hc
      simpa using ne_of_mem_of_not_mem hc colon
    have name : (cs ++ ')' :: back).takeWhile (· != ':') =
        cs ++ ')' :: back.takeWhile (· != ':') := by
      simp [List.takeWhile_append_of_pos all]
    have unnamed : NamedSet.posix? (String.ofList ((cs ++ ')' :: back).takeWhile (· != ':'))) =
        none := by
      by_contra h
      exact closing_not_mem_of_posix? h (by simp [name])
    simp only [namedUpTo, List.dropWhile_eq_nil_iff.mpr all, unnamed]
    split <;> rfl

theorem readNamed_append (f : Flags) (cs back : List Char) :
    readNamed f (cs ++ ')' :: back) =
      (readNamed f cs).map fun (s, left) => (s, left ++ ')' :: back) := by
  rcases cs with _ | ⟨c, cs⟩
  · rfl
  by_cases hc : c = ':'
  · subst hc
    rcases cs with _ | ⟨d, rest⟩
    · exact namedUpTo_append f false [] back
    · by_cases hd : d = '^'
      · subst hd
        exact namedUpTo_append f true rest back
      · have plain (cs : List Char) :
            readNamed f (':' :: d :: cs) = namedUpTo f false (d :: cs) := by
          rw [readNamed]
          · rfl
          · intro others heq
            exact hd (List.cons.inj heq).1
        rw [List.cons_append, List.cons_append, plain, plain]
        exact namedUpTo_append f false (d :: rest) back
  · simp [readNamed, hc]

theorem namedUpTo_suffix {f : Flags} {negated : Bool} {cs left : List Char}
    {s : Option CodePointSet} (h : namedUpTo f negated cs = some (s, left)) : left <:+ cs := by
  simp only [namedUpTo] at h
  split at h
  next rest hdrop =>
    obtain ⟨_, -, heq⟩ := Option.map_eq_some_iff.mp h
    cases heq
    have := List.dropWhile_suffix (l := cs) (· != ':')
    rw [hdrop] at this
    exact ((List.suffix_cons _ _).trans (List.suffix_cons _ _)).trans this
  · cases h

theorem readNamed_suffix {f : Flags} {cs left : List Char} {s : Option CodePointSet}
    (h : readNamed f cs = some (s, left)) : left <:+ cs := by
  rcases cs with _ | ⟨c, cs⟩
  · cases h
  by_cases hc : c = ':'
  · subst hc
    refine List.IsSuffix.trans ?_ (List.suffix_cons ':' cs)
    refine (namedUpTo_suffix h).trans ?_
    split
    · exact List.suffix_cons _ _
    · exact List.suffix_refl _
  · simp [readNamed, hc] at h

/-- Reading goes on construct by construct. -/
theorem readFrom_turn (f : Flags) (frames : List Frame) (u : Union) (cs : List Char) :
    readFrom f frames u cs = (turn f frames u cs).bind fun x =>
      match x.1 with
      | .inl part => some (part, x.2)
      | .inr next =>
        if x.2.length < cs.length then readFrom f next.1 next.2 x.2 else none := by
  rw [readFrom]
  simp only [turn, bind_apply, skip_apply, Option.bind_some]
  rcases f.skip cs with _ | ⟨c, rest⟩
  · simp [range, item, operation?]
  -- an inner bracket, unless it is a named class
  by_cases opens : c = '['
  · subst opens
    simp only [onNext_same, nested, opening_apply]
    rcases readNamed f rest with _ | ⟨_ | s, left⟩
    · simp [Option.map_eq_bind, Option.bind_assoc]
    · rfl
    · rfl
  -- the end of the innermost bracket, which may be the outermost one
  by_cases closes : c = ']'
  · subst closes
    simp only [ne_eq, opens, not_false_eq_true, onNext_of_ne, onNext_same, closed]
    rcases settle f u.part frames with ⟨part, _ | ⟨_ | _, frames⟩⟩
    · rfl
    · simp [Option.map_eq_bind, Option.bind_assoc]
      split <;> rfl
    · rfl
  · simp only [ne_eq, opens, closes, not_false_eq_true, onNext_of_ne, bind_apply, look_apply,
      Option.bind_some]
    split
    · exact absurd rfl opens
    · exact absurd rfl closes
    · rfl
    · rfl
    · rfl
    · -- two characters between sets are an operation; anything else is an item
      have : operation? (c :: rest) = none := by
        unfold operation?
        split
        all_goals simp_all
      simp only [this, bind_apply, pure_apply, range_eq]
      cases readRange f (c :: rest) <;> rfl

/-! ### Steadiness -/

theorem steadyBut_opened (f : Flags) (negated : Bool) : SteadyBut AtEnd (opened f negated) := by
  refine (steady_taking f (by decide)).bind fun hyphens =>
    steadyBut_more.bind_atEnd fun _ => .ite ?_ ?_
  · refine steadyBut_onNext (by decide) ?_ (steady_pure _).but
    exact (steady_skip f).bind fun _ => steadyBut_more.bind_atEnd fun _ => (steady_pure _).but
  · exact (steady_pure _).but

theorem steadyBut_opening (f : Flags) : SteadyBut AtEnd (opening f) := by
  refine (steady_skip f).bind fun _ => steadyBut_onNext (by decide) ?_ (steadyBut_opened f false)
  exact (steady_skip f).bind fun _ => steadyBut_opened f true

theorem steadyBut_item (f : Flags) : SteadyBut (Escape.DanglingBrace f) (item f) :=
  steady_next.bind fun _ => .ite (Escape.steadyBut_read f) (steady_pure _).but

theorem steady_hyphenFollows (f : Flags) : Steady (look (hyphenFollows f)) := by
  refine steady_look fun cs back => ?_
  rcases cs with _ | ⟨c, rest⟩
  · rfl
  · have bracket := f.peek?_append (.inl rfl) rest back
    have hyphen := f.peek?_append (.inr rfl) rest back
    simp only [hyphenFollows, List.cons_append, List.head?_cons, List.tail_cons]
    grind

/-- An assertion is no set of characters, whatever follows it. -/
theorem behindItem_assertion (f : Flags) (a : Assertion) (cs : List Char) :
    behindItem f (.assertion a) cs = none := by
  have between (second : Escape) : lift (between? f (.assertion a) second) = failure := rfl
  have alone : lift (alone? f (.assertion a)) = failure := rfl
  simp only [behindItem, bind_apply, between, alone]
  simp
  intro _ mid _
  split <;> simp

theorem steadyBut_behindItem (f : Flags) (first : Escape) :
    SteadyBut AtEnd (behindItem f first) := by
  refine (steady_skip f).bind fun _ => steadyBut_more.bind_atEnd fun _ => ?_
  refine (steady_hyphenFollows f).bind fun _ => .ite ?_ (steady_lift _).but
  refine steady_next.bind fun _ => (steady_skip f).bind fun _ => ?_
  refine (steadyBut_item f).bind_of (fun second => (steady_lift _).but) ?_
  rintro _ mid back b left ⟨⟨a, rfl⟩, -⟩ h
  simp [between?, Escape.character?] at h

theorem steadyBut_range (f : Flags) : SteadyBut AtEnd (range f) := by
  refine (steadyBut_item f).bind_of (steadyBut_behindItem f) ?_
  rintro _ mid back b left ⟨⟨a, rfl⟩, -⟩ h
  rw [behindItem_assertion] at h
  cases h

theorem steadyBut_nested (f : Flags) (frames : List Frame) (u : Union) :
    SteadyBut AtEnd (nested f frames u) where
  suffix {cs a left} h := by
    simp only [nested] at h
    split at h
    next hnamed =>
      cases h
      exact readNamed_suffix hnamed
    · cases h
    · exact suffix_bind (steadyBut_opening f).suffix (steady_pure _).suffix h
  steadyAt cs := by
    -- no class, a name that no class has, or a class; the text behind does not change which
    rcases hnamed : readNamed f cs with _ | ⟨_ | s, left⟩
    · have outer : SteadyBut AtEnd (do
          let (negated, inner) ← opening f
          return .inr (.opened u negated :: frames, inner) : Take Turn) :=
        (steadyBut_opening f).bind_atEnd fun _ => (steady_pure _).but
      refine (outer.steadyAt cs).congr ?_ fun back => ?_
      · simp only [nested, hnamed]
      · simp only [nested, readNamed_append, hnamed, Option.map_none]
    · refine ((steady_failure.but).steadyAt cs).congr ?_ fun back => ?_
      · simp only [nested, hnamed]
        rfl
      · simp only [nested, readNamed_append, hnamed, Option.map_some]
        rfl
    · refine ⟨fun h => ?_, fun fails => ?_⟩
      · simp only [nested, hnamed] at h
        cases h
        left
        intro back
        simp only [nested, readNamed_append, hnamed, Option.map_some]
      · simp [nested, hnamed] at fails

theorem steady_closed (f : Flags) (frames : List Frame) (u : Union) :
    Steady (closed f frames u) := by
  unfold closed
  split
  · exact (steady_lift _).bind fun s => .ite (steady_pure _) (steady_pure _)
  · exact steady_failure

theorem steady_operation? : Steady (look operation?) := by
  refine steady_look fun cs back => ?_
  rcases cs with _ | ⟨c, _ | ⟨d, rest⟩⟩
  · rfl
  · simp [operation?]
  · simp only [List.cons_append, operation?]
    split <;> simp_all

theorem steady_operator (f : Flags) (frames : List Frame) (u : Union) (op : Operation) :
    Steady (operator f frames u op) :=
  steady_next.bind fun _ => steady_next.bind fun _ => steady_pure _

/-- Nothing is left, and the bracket is still open. -/
def OpenAtEnd (res : Turn) (left : List Char) : Prop := AtEnd res left ∧ res.isRight

theorem yields_nested (f : Flags) (frames : List Frame) (u : Union) :
    Yields (fun res => res.isRight) (nested f frames u) := by
  intro cs res left h
  simp only [nested] at h
  split at h
  · cases h
    rfl
  · cases h
  · obtain ⟨_, _, -, ⟨⟩⟩ := Take.bind_eq_some.mp h
    rfl

theorem steadyBut_turn (f : Flags) (frames : List Frame) (u : Union) :
    SteadyBut OpenAtEnd (turn f frames u) := by
  refine (steady_skip f).bind fun _ => steadyBut_onNext (by decide)
    ((steadyBut_nested f frames u).and (yields_nested f frames u)) ?_
  refine steadyBut_onNext (by decide) (steady_closed f frames u).but ?_
  refine steady_operation?.bind fun op => ?_
  cases op with
  | none =>
    refine ((steadyBut_range f).bind_atEnd fun s => (steady_pure _).but).and ?_
    exact Yields.bind_right fun _ => yields_pure rfl
  | some op => exact (steady_operator f frames u op).but

theorem consumes_turn (f : Flags) (frames : List Frame) (u : Union) :
    Consumes (turn f frames u) := by
  refine Consumes.bind_right (steady_skip f).suffix fun _ => ?_
  refine consumes_onNext (steadyBut_nested f frames u).suffix ?_
  refine consumes_onNext (steady_closed f frames u).suffix ?_
  refine Consumes.bind_right steady_operation?.suffix fun op => ?_
  cases op with
  | some op => exact consumes_next.bind ((steady_next.bind fun _ => steady_pure _).suffix)
  | none =>
    refine Consumes.bind ?_ (steady_pure _).suffix
    refine Consumes.bind ?_ (steadyBut_behindItem f _).suffix
    exact consumes_next.bind (SteadyBut.ite (Escape.steadyBut_read f) (steady_pure _).but).suffix

/-! ### Whole bracket expressions -/

/-- How reading goes on after one construct. -/
def goOn (f : Flags) : Turn → Take Part
  | .inl part => pure part
  | .inr next => readFrom f next.1 next.2

theorem readFrom_eq (f : Flags) (frames : List Frame) (u : Union) :
    readFrom f frames u = turn f frames u >>= goOn f := by
  funext cs
  rw [readFrom_turn, bind_apply]
  cases h : turn f frames u cs with
  | none => rfl
  | some found =>
    obtain ⟨part | next, left⟩ := found
    · rfl
    · simp [goOn, consumes_turn f frames u _ _ _ h]

theorem readFrom_suffix {f : Flags} {frames : List Frame} {u : Union} {cs left : List Char}
    {part : Part} (h : readFrom f frames u cs = some (part, left)) : left <:+ cs := by
  induction hn : cs.length using Nat.strong_induction_on generalizing frames u cs with
  | _ n ih =>
    rw [readFrom_eq] at h
    obtain ⟨res, mid, first, second⟩ := Take.bind_eq_some.mp h
    have shorter := consumes_turn f frames u _ _ _ first
    refine List.IsSuffix.trans ?_ ((steadyBut_turn f frames u).suffix first)
    cases res with
    | inl part =>
      cases second
      exact List.suffix_refl _
    | inr next => exact ih mid.length (by omega) second rfl

theorem goOn_suffix {f : Flags} {res : Turn} {cs left : List Char} {part : Part}
    (h : goOn f res cs = some (part, left)) : left <:+ cs := by
  cases res with
  | inl part =>
    cases h
    exact List.suffix_refl _
  | inr next => exact readFrom_suffix h

theorem consumes_readFrom (f : Flags) (frames : List Frame) (u : Union) :
    Consumes (readFrom f frames u : Take Part) := by
  rw [readFrom_eq]
  exact Consumes.bind (consumes_turn f frames u) goOn_suffix

/-- An open bracket needs more than a parenthesis to close. -/
theorem not_readFrom_of_atEnd {f : Flags} {frames : List Frame} {u : Union} {part : Part}
    {mid back left : List Char} (hmid : mid = []) :
    readFrom f frames u (mid ++ ')' :: back) ≠ some (part, left ++ ')' :: back) := by
  intro h
  have := consumes_readFrom f frames u _ _ _ h
  simp [hmid] at this
  omega

theorem steady_readFrom (f : Flags) (frames : List Frame) (u : Union) :
    Steady (readFrom f frames u : Take Part) where
  suffix := readFrom_suffix
  steadyAt cs := by
    induction hn : cs.length using Nat.strong_induction_on generalizing frames u cs with
    | _ n ih =>
      rw [readFrom_eq]
      refine SteadyAt.bind (steadyBut_turn f frames u) goOn_suffix ?_ ?_
      · intro res mid first
        have shorter := consumes_turn f frames u _ _ _ first
        cases res with
        | inl part => exact (steady_pure part).steadyAt mid
        | inr next => exact ih mid.length (by omega) next.1 next.2 mid rfl
      · rintro (part | next) mid back b left ⟨hmid, hright⟩ h
        · cases hright
        · exact not_readFrom_of_atEnd hmid h

theorem read_eq (f : Flags) :
    read f = opening f >>= fun x => (readFrom f [.opened {} x.1] x.2 : Take Part) := by
  funext cs
  simp only [read, opening_apply, bind_apply]
  cases opening f cs <;> rfl

theorem steady_read (f : Flags) : Steady (read f : Take Part) := by
  rw [read_eq]
  exact (steadyBut_opening f).bind_of (fun x => steady_readFrom f _ x.2)
    fun _ _ _ _ _ hmid h => not_readFrom_of_atEnd hmid h

end Bracket
end DocQuery.Pattern
