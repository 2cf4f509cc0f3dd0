import Mathlib
import DocQuery.Pattern.Reader
import DocQuery.Proofs.Pattern.Bracket
import DocQuery.Proofs.Pattern.Matching

/-!
# Constructs

A step of the reader does two things.  It takes a construct off the front of the text, which
depends on the flags only; and it adds the construct to what has been read, which does not
depend on the text.  Kept apart, the first is a matter of characters and the second one of
pieces, branches and open groups.

## Main definitions

- `Construct`: what a step can take
- `construct`: taking one
- `Construct.apply`: adding one

## Main results

- `Reader.step_eq`: a step takes a construct and adds it
- `steadyBut_construct`: taking one is steady, but for a brace behind a word boundary
- `Construct.apply_within`: what is added does not depend on groups further out
-/

namespace DocQuery.Pattern

open DocQuery.Text Take

/-- What a step of the reader can take. -/
inductive Construct where
  /-- A part of the current branch -/
  | piece (p : Piece)
  /-- The start of another branch -/
  | branch
  /-- The start of a group that is not counted, with its flags -/
  | group (f : Flags)
  /-- The start of a counted group -/
  | counted
  /-- The start of a counted group with a name -/
  | named (name : List Char)
  /-- The end of a group -/
  | close
  /-- Other flags for the rest of the group -/
  | flags (f : Flags)
  /-- A repetition of the last piece; `turned` if a question mark follows it -/
  | repetition (least : Nat) (most : Option Nat) (turned : Bool)

namespace Take

/-- White space, whatever the flags. -/
def spaces : Take Unit := do
  let _ ← taking {} isSpace
  return ()

/-- A count with white space around it; the count may be missing. -/
def count (f : Flags) : Take (Option Nat) := do
  spaces
  let digits ← taking f Char.isDigit
  spaces
  skip f
  if digits.isEmpty then return none
  else if Nat.ofDigitChars 10 digits 0 ≤ Reader.maxCount then
    return some (Nat.ofDigitChars 10 digits 0)
  else failure

/-- The counts between braces, the closing one included. -/
def counts (f : Flags) : Take (Nat × Option Nat) := do
  skip f
  let least ← count f
  let least ← lift least
  onNext ','
    (do
      skip f
      onNext '}' (return (least, none)) (do
        let most ← count f
        let most ← lift most
        onNext '}' (if least ≤ most then return (least, some most) else failure) failure))
    (onNext '}' (return (least, some least)) failure)

/-- The end of a repetition. -/
def repetition (least : Nat) (most : Option Nat) : Take Construct := do
  let turned ← onNext '?' (return true) (return false)
  return .repetition least most turned

/-- The name of a group and the bracket behind it. -/
def groupName : Take Construct := do
  let name ← upTo {} '>'
  if Reader.isGroupName name then return .named name else failure

/-- Letters for flags and the character behind them. -/
def letters (f : Flags) : Take (Flags × Bool × Char) := fun cs =>
  (f.readLetters [] false cs).bind fun (f, any, left) =>
    match left with
    | c :: rest => some ((f, any, c), rest)
    | [] => none

/-- Flags for a group, or for the rest of the current one. -/
def groupFlags (f : Flags) : Take Construct := do
  let (f, any, c) ← letters f
  if c = ':' then return .group f
  else if any then return .flags f
  else failure

/-- Whether a name comes next in one of the two ways. -/
def startsWithP (cs : List Char) : Bool := ['P', '<'].isPrefixOf cs

/-- What follows a question mark behind an opening parenthesis. -/
def special (f : Flags) : Take Construct :=
  onNext '=' failure (onNext '!' failure (onNext '<'
    (onNext '=' failure (onNext '!' failure groupName))
    (do
      if ← look startsWithP then
        let _ ← next
        let _ ← next
        groupName
      else groupFlags f)))

/-- What follows an opening parenthesis. -/
def group (f : Flags) : Take Construct := do
  skip f
  onNext '?' (special f) (return .counted)

/-- A piece that holds no other. -/
def leaf (p : Pattern) : Construct := .piece (.part p 0)

/-- What an escape stands for outside brackets. -/
def escape? (f : Flags) : Escape → Option Construct
  | .literal c => some (leaf (.one (f.literal c)))
  | .byte c => if f.unicode || c.toNat < 128 then some (leaf (.one (f.literal c))) else none
  | .set s => some (leaf (.one s))
  | .assertion a => some (leaf (.assertion a))

end Take

/-- Takes a construct that begins with `c`. -/
def construct (f : Flags) (c : Char) : Take Construct :=
  match c with
  | '(' => Take.group f
  | ')' => return .close
  | '|' => return .branch
  | '[' => do
    let part ← (Bracket.read f : Take Bracket.Part)
    return .piece (.part (.one part.set) part.depth)
  | '?' => Take.repetition 0 (some 1)
  | '*' => Take.repetition 0 none
  | '+' => Take.repetition 1 none
  | '{' => do
    let (least, most) ← counts f
    skip f
    Take.repetition least most
  | '.' => do
    let s ← lift f.dot?
    return leaf (.one s)
  | '^' => return leaf (.assertion f.caret)
  | '$' => return leaf (.assertion f.dollar)
  | '\\' => do
    let e ← (Escape.read f : Take Escape)
    lift (escape? f e)
  | c => return leaf (.one (f.literal c))

/-- The reader after one more construct. -/
def Construct.apply (r : Reader) : Construct → Option Reader
  | piece p => some (r.push p)
  | branch => some { r with branches := r.branch :: r.branches, pieces := [] }
  | group f => some (r.openGroup f)
  | counted => some r.openCounted
  | named name =>
    if r.names.contains name then none
    else some { r with names := name :: r.names }.openCounted
  | close => r.closeGroup
  | flags f => some ({ r with flags := f }.push .flags)
  | repetition least most turned =>
    match r.pieces with
    | .part p depth :: pieces =>
      let repeated := Pattern.repetition p least most (r.flags.lazy != turned)
      some { r with pieces := .part repeated (depth + 1) :: pieces }
    | _ => none

/-! ## A step takes a construct and adds it -/

section Step

variable {r : Reader} {f : Flags}

theorem spaces_apply (cs : List Char) : spaces cs = some ((), cs.dropWhile isSpace) := by
  simp [spaces, Flags.takeWhile_of_not_spaced]

theorem count_eq (f : Flags) : count f = Reader.readCount f := by
  funext cs
  simp only [count, Reader.readCount, bind_apply, spaces_apply, Option.bind_some, taking_apply,
    skip_apply]
  split_ifs <;> rfl

/-- The second count, and the closing brace behind it. -/
theorem counts_most (f : Flags) (least : Nat) (cs : List Char) :
    (do
      let most ← count f
      let most ← lift most
      onNext '}' (if least ≤ most then return (least, some most) else failure) failure :
        Take (Nat × Option Nat)) cs =
      (Reader.readCount f cs).bind fun (most, cs) => most.bind fun most =>
        match cs with
        | '}' :: rest => if least ≤ most then some ((least, some most), rest) else none
        | _ => none := by
  simp only [bind_apply, count_eq]
  rcases Reader.readCount f cs with _ | ⟨_ | most, _ | ⟨c, rest⟩⟩
  · rfl
  · rfl
  · rfl
  · rfl
  · by_cases hc : c = '}'
    · subst hc
      simp only [Option.bind_some, lift_apply, Option.map_some, onNext_same]
      split <;> rfl
    · simp [hc]

theorem counts_eq (f : Flags) : counts f = Reader.readCounts f := by
  funext cs
  simp only [counts, Reader.readCounts, bind_apply, skip_apply, Option.bind_some, count_eq,
    Option.bind_eq_bind]
  rcases Reader.readCount f (f.skip cs) with _ | ⟨_ | least, _ | ⟨c, rest⟩⟩
  · rfl
  · rfl
  · rfl
  · rfl
  -- behind the least number a comma, with another number or without, or the brace at once
  by_cases comma : c = ','
  · subst comma
    simp only [Option.bind_some, lift_apply, Option.map_some, onNext_same, bind_apply, skip_apply]
    rcases f.skip rest with _ | ⟨d, left⟩
    · exact counts_most f least []
    · by_cases brace : d = '}'
      · subst brace
        rfl
      · rw [onNext_of_ne brace]
        rw [← count_eq]
        refine (counts_most f least (d :: left)).trans ?_
        rw [count_eq]
        split
        next heq => exact absurd (List.cons.inj heq).1 brace
        next => rfl
  · by_cases brace : c = '}'
    · subst brace
      rfl
    · simp [comma, brace]

theorem turned_apply (cs : List Char) :
    onNext '?' (return true) (return false) cs =
      some (match cs with
        | '?' :: rest => (true, rest)
        | cs => (false, cs)) := by
  rcases cs with _ | ⟨c, rest⟩
  · rfl
  · by_cases hc : c = '?'
    · subst hc
      rfl
    · simp [hc]

theorem repeat_eq (least : Nat) (most : Option Nat) :
    r.repeat least most = Take.repetition least most >>= fun a => lift (a.apply r) := by
  funext cs
  simp only [Reader.repeat, Take.repetition, bind_apply, turned_apply, Option.bind_some, pure_apply,
    lift_apply, Construct.apply]
  rcases r.pieces with _ | ⟨⟨p, depth⟩ | _, pieces⟩
  · rfl
  · rfl
  · rfl

theorem readName_eq : r.readName = groupName >>= fun a => lift (a.apply r) := by
  funext cs
  simp only [Reader.readName, groupName, bind_apply, upTo_apply, Flags.takeWhile_of_not_spaced]
  rcases cs.dropWhile (· != '>') with _ | ⟨c, rest⟩
  · rfl
  · simp only [Option.bind_some]
    by_cases hname : Reader.isGroupName (cs.takeWhile (· != '>')) = true
    · by_cases known : cs.takeWhile (· != '>') ∈ r.names <;> simp [hname, Construct.apply, known]
    · simp [hname]

theorem groupFlags_apply (cs : List Char) :
    (groupFlags r.flags >>= fun a => lift (a.apply r)) cs =
      match r.flags.readLetters [] false cs with
      | some (f, _, ':' :: rest) => some (r.openGroup f, rest)
      | some (f, true, _ :: rest) => some ({ r with flags := f }.push .flags, rest)
      | _ => none := by
  simp only [groupFlags, letters, bind_apply]
  rcases r.flags.readLetters [] false cs with _ | ⟨f, any, _ | ⟨c, rest⟩⟩
  · rfl
  · rfl
  · by_cases hc : c = ':'
    · subst hc
      rfl
    · cases any <;> simp [hc, Construct.apply]

theorem readGroup_question {cs rest : List Char} (h : r.flags.skip cs = '?' :: rest) :
    r.readGroup cs = (special r.flags >>= fun a => lift (a.apply r)) rest := by
  have flags := groupFlags_apply (r := r) rest
  simp only [Reader.readGroup, h]
  rcases rest with _ | ⟨c, rest⟩
  · rfl
  -- looking ahead is refused on both sides
  by_cases equal : c = '='
  · subst equal
    rfl
  by_cases mark : c = '!'
  · subst mark
    rfl
  by_cases angle : c = '<'
  · subst angle
    -- looking back is refused, and anything else behind the angle is a name
    rcases rest with _ | ⟨d, rest⟩
    · simp [special, readName_eq]
    by_cases equal : d = '='
    · subst equal
      rfl
    by_cases mark : d = '!'
    · subst mark
      rfl
    simp [special, readName_eq, equal, mark]
  by_cases letter : c = 'P'
  · subst letter
    -- behind `P` an angle starts a name; without it the letter is read as a flag
    rcases rest with _ | ⟨d, rest⟩
    · exact flags.symm
    by_cases angle : d = '<'
    · subst angle
      simp [special, startsWithP, readName_eq]
    · have only_flags :
          special r.flags ('P' :: d :: rest) = groupFlags r.flags ('P' :: d :: rest) := by
        simp [special, startsWithP, Ne.symm angle]
      rw [bind_apply, only_flags]
      conv_lhs => simp [angle]
      exact flags.symm
  · -- anything else is flags
    have only_flags : special r.flags (c :: rest) = groupFlags r.flags (c :: rest) := by
      simp [special, startsWithP, equal, mark, angle, Ne.symm letter]
    rw [bind_apply, only_flags]
    conv_lhs => simp [equal, mark, angle, letter]
    exact flags.symm

theorem readGroup_eq : r.readGroup = Take.group r.flags >>= fun a => lift (a.apply r) := by
  funext cs
  simp only [Take.group, bind_apply, skip_apply, Option.bind_some]
  rcases h : r.flags.skip cs with _ | ⟨c, rest⟩
  · simp [Reader.readGroup, h, Construct.apply]
  · by_cases hc : c = '?'
    · subst hc
      rw [readGroup_question h, onNext_same]
      rfl
    · simp [Reader.readGroup, h, hc, Construct.apply]

theorem Reader.step_eq (r : Reader) (c : Char) :
    r.step c = construct r.flags c >>= fun a => lift (a.apply r) := by
  funext cs
  by_cases hc : c ∈ "()|[?*+\x7b.^$\\".toList
  · simp only [String.reduceToList, List.mem_cons, List.not_mem_nil, or_false] at hc
    -- the marks in the order in which they are listed; most constructs are the same on both sides
    obtain rfl | rfl | rfl | rfl | rfl | rfl | rfl | rfl | rfl | rfl | rfl | rfl := hc
    · exact congrFun readGroup_eq cs
    · rfl
    · rfl
    · simp only [Reader.step, construct, bind_apply]
      cases Bracket.read r.flags cs <;> rfl
    · exact congrFun (repeat_eq 0 (some 1)) cs
    · exact congrFun (repeat_eq 0 none) cs
    · exact congrFun (repeat_eq 1 none) cs
    · simp only [Reader.step, construct, bind_apply, counts_eq, repeat_eq]
      cases Reader.readCounts r.flags cs <;> rfl
    · simp only [Reader.step, construct, bind_apply]
      cases r.flags.dot? <;> rfl
    · rfl
    · rfl
    · simp only [Reader.step, construct, bind_apply]
      rcases Escape.read r.flags cs with _ | ⟨_ | c | _ | _, left⟩
      · rfl
      · rfl
      · simp only [Option.bind_some, escape?]
        split <;> rfl
      · rfl
      · rfl
  · simp only [String.reduceToList, List.mem_cons, List.not_mem_nil, or_false, not_or] at hc
    -- any other character stands for itself
    have literal : construct r.flags c = return leaf (.one (r.flags.literal c)) := by
      simp [construct, hc]
    rw [literal]
    simp only [Reader.step]
    split
    case h_13 => rfl
    all_goals simp at hc

end Step

/-! ## Taking a construct is steady -/

section Steady

theorem steady_spaces : Steady spaces :=
  (steady_taking {} (by decide)).bind fun _ => steady_pure ()

theorem steady_count (f : Flags) : Steady (count f) := by
  refine steady_spaces.bind fun _ => (steady_taking f (by decide)).bind fun digits => ?_
  refine steady_spaces.bind fun _ => (steady_skip f).bind fun _ => ?_
  exact .ite (steady_pure none) (.ite (steady_pure (some _)) steady_failure)

theorem steady_counts (f : Flags) : Steady (counts f) := by
  refine (steady_skip f).bind fun _ => (steady_count f).bind fun least => ?_
  refine (steady_lift least).bind fun least => steadyBut_onNext (by decide) ?_ ?_
  · refine (steady_skip f).bind fun _ => steadyBut_onNext (by decide) (steady_pure _) ?_
    refine (steady_count f).bind fun most => (steady_lift most).bind fun most => ?_
    exact steadyBut_onNext (by decide) (.ite (steady_pure _) steady_failure) steady_failure
  · exact steadyBut_onNext (by decide) (steady_pure _) steady_failure

theorem steady_repetition (least : Nat) (most : Option Nat) :
    Steady (Take.repetition least most) :=
  (steadyBut_onNext (by decide) (steady_pure true) (steady_pure false)).bind fun _ =>
    steady_pure _

theorem steady_groupName : Steady groupName :=
  (steady_upTo {} '>').bind fun _ => .ite (steady_pure _) steady_failure

/-- Letters go on to a colon or a parenthesis, whatever follows it. -/
theorem readLetters_append {f f' : Flags} {seen : List Char} {hyphen any : Bool}
    {cs left : List Char} (h : f.readLetters seen hyphen cs = some (f', any, left))
    (back : List Char) :
    f.readLetters seen hyphen (cs ++ back) = some (f', any, left ++ back) := by
  induction cs generalizing f seen hyphen with
  | nil => cases h
  | cons c rest ih =>
    simp only [List.cons_append, Flags.readLetters] at h ⊢
    split_ifs at h ⊢
    · cases h
      rfl
    · exact ih h
    · obtain ⟨g, hset, h⟩ := Option.bind_eq_some_iff.mp h
      exact Option.bind_eq_some_iff.mpr ⟨g, hset, ih h⟩

theorem readLetters_suffix {f f' : Flags} {seen : List Char} {hyphen any : Bool}
    {cs left : List Char} (h : f.readLetters seen hyphen cs = some (f', any, left)) :
    left <:+ cs := by
  induction cs generalizing f seen hyphen with
  | nil => cases h
  | cons c rest ih =>
    simp only [Flags.readLetters] at h
    split_ifs at h
    · cases h
      exact List.suffix_refl _
    · exact (ih h).trans (List.suffix_cons c rest)
    · obtain ⟨g, -, h⟩ := Option.bind_eq_some_iff.mp h
      exact (ih h).trans (List.suffix_cons c rest)

/-- Letters that end in front of what follows the text end there without it. -/
theorem readLetters_of_append {f f' : Flags} {seen : List Char} {hyphen any : Bool}
    {cs back left : List Char} (something : left ≠ [])
    (h : f.readLetters seen hyphen (cs ++ back) = some (f', any, left ++ back)) :
    f.readLetters seen hyphen cs = some (f', any, left) := by
  induction cs generalizing f seen hyphen with
  | nil =>
    have := (readLetters_suffix h).length_le
    simp only [List.nil_append, List.length_append] at this
    exact absurd (List.length_eq_zero_iff.mp (by omega)) something
  | cons c rest ih =>
    simp only [List.cons_append, Flags.readLetters] at h ⊢
    split_ifs at h ⊢
    · simp only [Option.some.injEq, Prod.mk.injEq, ← List.cons_append,
        List.append_cancel_right_eq] at h
      rw [h.1, h.2.1, h.2.2]
    · exact ih h
    · obtain ⟨g, hset, h⟩ := Option.bind_eq_some_iff.mp h
      exact Option.bind_eq_some_iff.mpr ⟨g, hset, ih h⟩

theorem letters_eq_some_iff {f f' : Flags} {any : Bool} {c : Char} {cs left : List Char} :
    letters f cs = some ((f', any, c), left) ↔
      f.readLetters [] false cs = some (f', any, c :: left) := by
  simp only [letters]
  rcases f.readLetters [] false cs with _ | ⟨g, b, _ | ⟨d, rest⟩⟩ <;> simp [and_assoc]

theorem steady_letters (f : Flags) : Steady (letters f) where
  suffix {cs a left} h :=
    (List.suffix_cons _ left).trans (readLetters_suffix (letters_eq_some_iff.mp h))
  steadyAt cs := by
    refine ⟨fun h => .inl fun back => ?_, fun {back a left} fails h => ?_⟩
    · exact letters_eq_some_iff.mpr (readLetters_append (letters_eq_some_iff.mp h) _)
    · have found := readLetters_of_append (List.cons_ne_nil _ left) (letters_eq_some_iff.mp h)
      cases (letters_eq_some_iff.mpr found).symm.trans fails

theorem steady_groupFlags (f : Flags) : Steady (groupFlags f) :=
  (steady_letters f).bind fun _ =>
    .ite (steady_pure _) (.ite (steady_pure _) steady_failure)

theorem steady_startsWithP : Steady (look startsWithP) := by
  refine steady_look fun cs back => ?_
  rcases cs with _ | ⟨c, _ | ⟨d, rest⟩⟩
  · rfl
  · simp [startsWithP, List.isPrefixOf]
  · simp [startsWithP, List.isPrefixOf]

theorem steady_special (f : Flags) : Steady (special f) := by
  refine steadyBut_onNext (by decide) steady_failure ?_
  refine steadyBut_onNext (by decide) steady_failure ?_
  refine steadyBut_onNext (by decide) ?_ ?_
  · refine steadyBut_onNext (by decide) steady_failure ?_
    exact steadyBut_onNext (by decide) steady_failure steady_groupName
  · refine steady_startsWithP.bind fun _ => .ite ?_ (steady_groupFlags f)
    exact steady_next.bind fun _ => steady_next.bind fun _ => steady_groupName

theorem steady_group (f : Flags) : Steady (Take.group f) :=
  (steady_skip f).bind fun _ =>
    steadyBut_onNext (by decide) (steady_special f) (steady_pure Construct.counted)

/-- A word boundary has been read, and a brace is left that nothing follows. -/
def DanglingBrace (f : Flags) (a : Construct) (left : List Char) : Prop :=
  (∃ p, a = .piece p) ∧ ∃ rest, left = '{' :: rest ∧ f.skip rest = []

theorem steadyBut_construct (f : Flags) (c : Char) :
    SteadyBut (DanglingBrace f) (construct f c) := by
  unfold construct
  split
  · exact (steady_group f).but
  · exact (steady_pure _).but
  · exact (steady_pure _).but
  · exact ((Bracket.steady_read f).bind fun _ => steady_pure _).but
  · exact (steady_repetition 0 (some 1)).but
  · exact (steady_repetition 0 none).but
  · exact (steady_repetition 1 none).but
  · exact ((steady_counts f).bind fun _ => (steady_skip f).bind fun _ => steady_repetition _ _).but
  · exact ((steady_lift _).bind fun _ => steady_pure _).but
  · exact (steady_pure _).but
  · exact (steady_pure _).but
  · refine (Escape.steadyBut_read f).bind_of (fun e => (steady_lift _).but) ?_
    rintro _ mid back b left ⟨⟨a, rfl⟩, hmid⟩ h
    simp only [escape?, lift_apply, Option.map_some, Option.some.injEq, Prod.mk.injEq,
      List.append_cancel_right_eq] at h
    exact ⟨⟨_, h.1.symm⟩, h.2 ▸ hmid⟩
  · exact (steady_pure _).but

end Steady

/-! ## Groups further out -/

/-- The reader inside of further groups. -/
def Reader.within (r : Reader) (gs : List Group) : Reader := { r with groups := r.groups ++ gs }

/-- What is added does not depend on groups further out, as long as none of them closes. -/
theorem Construct.apply_within {r : Reader} {a : Construct} (gs : List Group)
    (own : a = .close → r.groups ≠ []) :
    a.apply (r.within gs) = (a.apply r).map (·.within gs) := by
  cases a with
  | piece p => rfl
  | branch => rfl
  | group f => rfl
  | counted => rfl
  | flags f => rfl
  | named name =>
    by_cases known : name ∈ r.names
    · simp [apply, Reader.within, known]
    · simp [apply, Reader.within, known]
      rfl
  | close =>
    obtain ⟨g, groups, hgroups⟩ := List.exists_cons_of_ne_nil (own rfl)
    simp only [apply, Reader.closeGroup, Reader.within, hgroups, List.cons_append, Option.map_some]
    rfl
  | repetition least most turned =>
    rcases hp : r.pieces with _ | ⟨_ | _, pieces⟩ <;> simp [apply, Reader.within, hp]

/-! ## What is taken -/

/-- What a construct has to satisfy that begins with `c`: its patterns are well-formed, and only
a parenthesis closes a group. -/
def Construct.Valid (c : Char) : Construct → Prop
  | piece p => p.pattern.WellFormed
  | repetition least most _ => ∀ m ∈ most, least ≤ m
  | close => c = ')'
  | branch | group _ | counted | named _ | flags _ => True

theorem yields_counts (f : Flags) : Yields (fun x => ∀ m ∈ x.2, x.1 ≤ m) (counts f) := by
  refine Yields.bind_right fun _ => Yields.bind_right fun _ => Yields.bind_right fun least => ?_
  refine yields_onNext (Yields.bind_right fun _ => yields_onNext (yields_pure (by simp)) ?_) ?_
  · refine Yields.bind_right fun _ => Yields.bind_right fun most => yields_onNext ?_ yields_failure
    exact Yields.ite (fun h => yields_pure (by simpa using h)) fun _ => yields_failure
  · exact yields_onNext (yields_pure (by simp)) yields_failure

theorem yields_repetition {c : Char} {least : Nat} {most : Option Nat}
    (h : ∀ m ∈ most, least ≤ m) : Yields (Construct.Valid c) (Take.repetition least most) :=
  Yields.bind_right fun _ => yields_pure h

theorem yields_group (f : Flags) : Yields (Construct.Valid '(') (Take.group f) := by
  have name : Yields (Construct.Valid '(') groupName :=
    Yields.bind_right fun _ => Yields.ite (fun _ => yields_pure trivial) fun _ => yields_failure
  have flags : Yields (Construct.Valid '(') (groupFlags f) :=
    Yields.bind_right fun _ => Yields.ite (fun _ => yields_pure trivial) fun _ =>
      Yields.ite (fun _ => yields_pure trivial) fun _ => yields_failure
  refine Yields.bind_right fun _ => yields_onNext ?_ (yields_pure trivial)
  refine yields_onNext yields_failure (yields_onNext yields_failure (yields_onNext ?_ ?_))
  · exact yields_onNext yields_failure (yields_onNext yields_failure name)
  · refine Yields.bind_right fun _ => Yields.ite (fun _ => ?_) fun _ => flags
    exact Yields.bind_right fun _ => Yields.bind_right fun _ => name

theorem yields_construct (f : Flags) (c : Char) : Yields (Construct.Valid c) (construct f c) := by
  unfold construct
  split
  · exact yields_group f
  · exact yields_pure rfl
  · exact yields_pure trivial
  · exact Yields.bind_right fun _ => yields_pure trivial
  · exact yields_repetition (by simp)
  · exact yields_repetition (by simp)
  · exact yields_repetition (by simp)
  · exact (yields_counts f).bind fun _ h => Yields.bind_right fun _ => yields_repetition h
  · exact Yields.bind_right fun _ => yields_pure trivial
  · exact yields_pure trivial
  · exact yields_pure trivial
  · refine Yields.bind_right fun e => ?_
    cases e with
    | literal c => exact yields_pure trivial
    | byte c =>
      simp only [escape?]
      split
      · exact yields_pure trivial
      · exact yields_failure
    | set s => exact yields_pure trivial
    | assertion a => exact yields_pure trivial
  · exact yields_pure trivial

end DocQuery.Pattern
