import Mathlib
import DocQuery.Proofs.Pattern.Reading

/-!
# Pasting a Pattern into a Group

`anchored` pastes the text of a pattern between `^(?:` and `)$`.  What is pasted is read inside of
the group that the pasted text opens, and so it might close that group itself, or hide its
end.  This module says when it does neither.

## Main definitions

- `written?`: the pattern that a text stands for, with its depth and without limits
- `between`: a pattern between anchors, as a group of its own

## Main results

- `Reader.run_append_close`: what is read on its own is read before a parenthesis
- `Reader.exists_close_of_run`: what is read inside a group that it closes consists of what can
  be read on its own, the parenthesis and the rest
-/

namespace DocQuery.Pattern

open DocQuery.Text Take

namespace Flags

theorem exists_skippedFrom {inComment : Bool} {c : Char} {cs rest : List Char}
    (h : skipFrom inComment cs = c :: rest) :
    ∃ blank, cs = blank ++ c :: rest ∧ skipFrom inComment blank = [] ∧
      ∀ back, skipFrom inComment (blank ++ c :: back) = c :: back := by
  induction cs generalizing inComment with
  | nil => cases h
  | cons d cs ih =>
    simp only [skipFrom] at h
    split_ifs at h with comment space sign
    · obtain ⟨blank, rfl, nothing, same⟩ := ih h
      exact ⟨d :: blank, rfl, by simp [skipFrom, comment, nothing],
        fun back => by simp [skipFrom, comment, same]⟩
    · obtain ⟨blank, rfl, nothing, same⟩ := ih h
      exact ⟨d :: blank, rfl, by simp [skipFrom, comment, space, nothing],
        fun back => by simp [skipFrom, comment, space, same]⟩
    · subst sign
      obtain ⟨blank, rfl, nothing, same⟩ := ih h
      exact ⟨'#' :: blank, rfl, by simp [skipFrom, comment, space, nothing],
        fun back => by simp [skipFrom, comment, space, same]⟩
    · cases h
      exact ⟨[], rfl, rfl, fun back => by simp [skipFrom, comment, space, sign]⟩

/-- What is skipped in front of a construct does not depend on what follows its first
character. -/
theorem exists_skipped {f : Flags} {c : Char} {cs rest : List Char}
    (h : f.skip cs = c :: rest) :
    ∃ blank, cs = blank ++ c :: rest ∧ f.skip blank = [] ∧
      ∀ back, f.skip (blank ++ c :: back) = c :: back := by
  simp only [skip] at h ⊢
  split at h
  next spaced => simpa [spaced] using exists_skippedFrom h
  next not_spaced => exact ⟨[], h, by simp [not_spaced], fun _ => by simp [not_spaced]⟩

end Flags

namespace Reader

@[simp] theorem within_flags (r : Reader) (gs : List Group) : (r.within gs).flags = r.flags := rfl

theorem within_nil (r : Reader) : r.within [] = r := by
  simp [within]

/-- A construct that closes a group needs one that is open. -/
theorem groups_ne_nil_of_apply {r r' : Reader} {a : Construct} (add : a.apply r = some r')
    (ha : a = .close) : r.groups ≠ [] := by
  subst ha
  intro none_open
  simp [Construct.apply, closeGroup, none_open] at add

theorem run_close {r : Reader} {cs back : List Char} (h : r.flags.skip cs = ')' :: back) :
    r.run cs = r.closeGroup.bind (·.run back) := by
  rw [run_of_skip_cons h]
  rfl

/-- What is read on its own is read before a parenthesis, which closes the group around it.
Otherwise it ends within a comment, and the parenthesis belongs to that. -/
theorem run_append_close {r r' : Reader} {cs : List Char} (h : r.run cs = some r') :
    (∀ gs back, (r.within gs).run (cs ++ ')' :: back) =
      (r'.within gs).closeGroup.bind (·.run back)) ∨
    (∀ gs back, '\n' ∉ back → (r.within gs).run (cs ++ ')' :: back) = some (r'.within gs)) := by
  -- on the length of the text; the groups around it stay the same while its constructs are added
  induction hn : cs.length using Nat.strong_induction_on generalizing r cs with
  | _ n ih =>
    rcases hskip : r.flags.skip cs with _ | ⟨c, rest⟩
    · rw [run_of_skip_nil hskip] at h
      cases h
      obtain keeps | ⟨-, skipped⟩ := skip_append r'.flags cs
      · left
        intro gs back
        exact run_close (by simpa [hskip] using keeps back)
      · right
        intro gs back line
        exact run_of_skip_nil ((skipped back).2 line)
    · obtain ⟨a, left, r₁, take, add, go⟩ := (run_eq_some_iff hskip).mp h
      obtain ⟨blank, rfl, -, same⟩ := Flags.exists_skipped hskip
      have hskip' (gs : List Group) (back : List Char) :
          (r.within gs).flags.skip (blank ++ c :: rest ++ ')' :: back) =
            c :: (rest ++ ')' :: back) := by
        simpa using same (rest ++ ')' :: back)
      have add' (gs : List Group) : a.apply (r.within gs) = some (r₁.within gs) := by
        rw [Construct.apply_within gs (groups_ne_nil_of_apply add), add]
        rfl
      obtain keeps | ⟨rfl, swallows⟩ := (steadyBut_construct r.flags c).keeps take
      · -- The parenthesis is left, so it stands behind what is read next.
        have inside := ((steadyBut_construct r.flags c).suffix take).length_le
        have step (gs : List Group) (back : List Char) :
            (r.within gs).run (blank ++ c :: rest ++ ')' :: back) =
              (r₁.within gs).run (left ++ ')' :: back) := by
          rw [run_of_skip_cons (hskip' gs back), within_flags, keeps back, Option.bind_some, add',
            Option.bind_some]
        simp only [step]
        refine ih left.length ?_ go rfl
        simp at hn
        omega
      · right
        intro gs back line
        rw [run_of_skip_nil (Flags.skip_nil _)] at go
        cases go
        rw [run_of_skip_cons (hskip' gs back), within_flags, (swallows back).2 line,
          Option.bind_some, add', Option.bind_some]
        exact run_of_skip_nil (Flags.skip_nil _)

/-- A brace that nothing follows is no repetition. -/
theorem run_dangling {r : Reader} {rest : List Char} (h : r.flags.skip rest = []) :
    r.run ('{' :: rest) = none := by
  have brace : isSpace '{' = false := by decide
  have skip : r.flags.skip ('{' :: rest) = '{' :: rest := by
    simp [Flags.skip, Flags.skipFrom, brace]
  have uncounted : counts r.flags rest = none := by
    simp [counts, h, count, spaces_apply, Flags.takeWhile, Flags.takeFrom]
  simp [run_of_skip_cons skip, construct, uncounted]

/-- If the innermost of the groups further out has been closed at the end, then a parenthesis
did that behind something that can be read on its own. -/
theorem exists_close_of_run {r r' : Reader} {g : Group} {cs : List Char}
    (h : (r.within [g]).run cs = some r') (closed : r'.groups = []) :
    ∃ front back r₁, cs = front ++ ')' :: back ∧ r.run front = some r₁ ∧ r₁.groups = [] ∧
      r.run (front ++ [')']) = none ∧ (r₁.within [g]).closeGroup.bind (·.run back) = some r' := by
  induction hn : cs.length using Nat.strong_induction_on generalizing r cs with
  | _ n ih =>
    rcases hskip : r.flags.skip cs with _ | ⟨c, rest⟩
    · rw [run_of_skip_nil (r := r.within [g]) hskip] at h
      cases h
      simp [within] at closed
    obtain ⟨a, left, r₂, take, add, go⟩ := (run_eq_some_iff (r := r.within [g]) hskip).mp h
    rw [within_flags] at take
    obtain ⟨blank, rfl, nothing, same⟩ := Flags.exists_skipped hskip
    by_cases own : a = .close → r.groups ≠ []
    · -- The construct belongs to what can be read on its own.
      rw [Construct.apply_within [g] own] at add
      obtain ⟨r₀, add₀, rfl⟩ := Option.map_eq_some_iff.mp add
      obtain ⟨mid, rfl⟩ := (steadyBut_construct r.flags c).suffix take
      obtain ⟨front, back, r₁, rfl, hfront, hgroups, none_open, hclose⟩ :=
        ih left.length (by simp at hn; omega) go rfl
      rw [← List.append_assoc] at take
      obtain alone | ⟨⟨p, rfl⟩, z, rfl, hz⟩ :=
        (steadyBut_construct r.flags c).eq_some_or take
      · refine ⟨blank ++ c :: (mid ++ front), back, r₁, by simp, ?_, hgroups, ?_, hclose⟩
        · rw [run_of_skip_cons (same _), alone, Option.bind_some, add₀]
          exact hfront
        · rw [List.append_assoc, List.cons_append, run_of_skip_cons (same _)]
          obtain keeps | ⟨-, swallows⟩ := (steadyBut_construct r.flags c).keeps alone
          · rw [keeps [], Option.bind_some, add₀]
            exact none_open
          · exact absurd ((swallows back).1 _ _ take) (not_append_suffix front back)
      · -- A brace would be left that nothing follows.
        cases add₀
        rw [run_dangling (r := r.push p) hz] at hfront
        cases hfront
    · -- The construct closes the group further out.
      obtain ⟨rfl, none_open⟩ := Classical.not_imp.mp own
      have none_open := not_not.mp none_open
      obtain rfl : c = ')' := yields_construct r.flags c _ _ _ take
      cases take
      refine ⟨blank, rest, r, rfl, run_of_skip_nil nothing, none_open, ?_, ?_⟩
      · rw [run_close (same []), closeGroup, none_open]
        rfl
      · rw [← h, run_close (r := r.within [g]) hskip]

end Reader

/-! ## Anchored patterns -/

/-- The pattern that `text` stands for and how deeply it nests, if no group is left open.  It may
be too large or nest too deeply. -/
def written? (text : List Char) : Option (Pattern × Nat) :=
  (({} : Reader).run text).bind fun r => if r.groups.isEmpty then some r.choice else none

/-- Whether a pattern of the given depth is neither too large nor nests too deeply. -/
def withinLimits (p : Pattern) (depth : Nat) : Bool :=
  depth ≤ Reader.maxDepth && Automaton.fits p

theorem read?_eq_written? (text : List Char) :
    read? text = (written? text).bind fun (p, depth) =>
      if withinLimits p depth then some p else none := by
  simp only [read?, written?]
  cases ({} : Reader).run text with
  | none => rfl
  | some r =>
    rcases hchoice : r.choice with ⟨p, depth⟩
    simp only [Option.bind_some, Reader.finish, withinLimits, hchoice]
    cases r.groups.isEmpty <;> by_cases hdepth : depth ≤ Reader.maxDepth <;>
      simp [hdepth, Option.filter]

theorem written?_eq_some_iff {text : List Char} {found : Pattern × Nat} :
    written? text = some found ↔
      ∃ r, ({} : Reader).run text = some r ∧ r.groups = [] ∧ r.choice = found := by
  simp [written?, Option.bind_eq_some_iff]

/-- A pattern between anchors, as a group of its own. -/
def between (p : Pattern) : Pattern :=
  concatAll [.assertion .textStart, .group none p, .assertion .textEnd]

/-- What has been read in front of a pattern between anchors. -/
def anchorGroup : Group := ⟨none, [.part (.assertion .textStart) 0], [], {}⟩

theorem run_anchored (text : List Char) :
    ({} : Reader).run (anchored text) =
      (({} : Reader).within [anchorGroup]).run (text ++ [')', '$']) := by
  have caret : ({} : Reader).flags.skip (anchored text) =
    '^' :: '(' :: '?' :: ':' :: (text ++ [')', '$']) := rfl
  have opening : (({} : Reader).push (.part (.assertion .textStart) 0)).flags.skip
      ('(' :: '?' :: ':' :: (text ++ [')', '$'])) =
    '(' :: '?' :: ':' :: (text ++ [')', '$']) := rfl
  rw [Reader.run_of_skip_cons caret]
  exact Reader.run_of_skip_cons opening

theorem run_dollar {r : Reader} (h : r.flags = {}) :
    r.run ['$'] = some (r.push (.part (.assertion .textEnd) 0)) := by
  have dollar : r.flags.skip ['$'] = ['$'] := by
    rw [h]
    rfl
  have take : construct r.flags '$' [] = some (.piece (.part (.assertion .textEnd) 0), []) := by
    rw [h]
    rfl
  rw [Reader.run_of_skip_cons dollar, take]
  exact Reader.run_of_skip_nil (Flags.skip_nil _)

theorem choice_anchored {r : Reader} {p : Pattern} {depth : Nat} (hbranches : r.branches = [])
    (hpieces : r.pieces = [.part (.assertion .textEnd) 0, .part (.group none p) (depth + 1),
      .part (.assertion .textStart) 0]) : r.choice = (between p, depth + 2) := by
  simp [Reader.choice, Reader.branch, hbranches, hpieces, Reader.depthOf, choiceOf, between,
    Piece.pattern, Piece.depth]

/-- What stands behind a pattern closes the group and asks for the end of the text. -/
theorem run_anchored_end {r : Reader} (hr : r.groups = []) :
    ∃ r', (r.within [anchorGroup]).closeGroup.bind (·.run ['$']) = some r' ∧ r'.groups = [] ∧
      r'.choice = (between r.choice.1, r.choice.2 + 2) := by
  simp only [Reader.closeGroup, Reader.within, hr, List.nil_append, Option.bind_some]
  exact ⟨_, run_dollar rfl, rfl, choice_anchored rfl rfl⟩

/-- No parenthesis of the text closes a group that the text has not opened: one behind what could
stand on its own belongs to a comment. -/
def ClosesOwn (text : List Char) : Prop :=
  ∀ i < text.length, text[i]? = some ')' → (written? (text.take i)).isSome →
    (written? (text.take (i + 1))).isSome

instance (text : List Char) : Decidable (ClosesOwn text) :=
  inferInstanceAs (Decidable (∀ i < text.length, text[i]? = some ')' →
    (written? (text.take i)).isSome → (written? (text.take (i + 1))).isSome))

/-- The text can stand on its own, and a parenthesis behind it belongs to a comment. -/
def EndsInComment (text : List Char) : Prop :=
  (written? text).isSome ∧ (written? (text ++ [')'])).isSome

instance (text : List Char) : Decidable (EndsInComment text) :=
  inferInstanceAs (Decidable (_ ∧ _))

/-- What is a pattern on its own is one between anchors, unless it ends in a comment. -/
theorem written?_anchored {text : List Char} {p : Pattern} {depth : Nat}
    (alone : written? text = some (p, depth)) (open_end : ¬EndsInComment text) :
    written? (anchored text) = some (between p, depth + 2) := by
  obtain ⟨r, hrun, none_open, hchoice⟩ := written?_eq_some_iff.mp alone
  obtain closes | hides := Reader.run_append_close hrun
  · obtain ⟨r', hend, closed, hchoice'⟩ := run_anchored_end none_open
    refine written?_eq_some_iff.mpr ⟨r', ?_, closed, by rw [hchoice', hchoice]⟩
    rw [run_anchored, closes]
    exact hend
  · have hidden := hides [] [] (by simp)
    rw [Reader.within_nil, Reader.within_nil] at hidden
    have hidden := written?_eq_some_iff.mpr ⟨r, hidden, none_open, rfl⟩
    exact absurd ⟨by rw [alone]; rfl, by rw [hidden]; rfl⟩ open_end

/-- A text that ends within a comment is no pattern between anchors. -/
theorem written?_anchored_of_comment {text : List Char} (comment : EndsInComment text) :
    written? (anchored text) = none := by
  obtain ⟨found, hfound⟩ := Option.isSome_iff_exists.mp comment.1
  obtain ⟨r, hrun, none_open, -⟩ := written?_eq_some_iff.mp hfound
  obtain closes | hides := Reader.run_append_close hrun
  · have := closes [] []
    rw [Reader.within_nil, Reader.within_nil, Reader.closeGroup, none_open] at this
    have := comment.2
    simp_all [written?]
  · rw [written?, run_anchored, hides [anchorGroup] ['$'] (by decide), Option.bind_some]
    simp [Reader.within]

/-- What is a pattern between anchors is one on its own, unless it closes the group that the
anchors stand around. -/
theorem isSome_written?_of_anchored {text : List Char} (own : ClosesOwn text)
    (pasted : (written? (anchored text)).isSome) : (written? text).isSome := by
  obtain ⟨found, hfound⟩ := Option.isSome_iff_exists.mp pasted
  obtain ⟨r, hrun, closed, -⟩ := written?_eq_some_iff.mp hfound
  rw [run_anchored] at hrun
  obtain ⟨front, back, r₁, heq, hfront, none_open, not_own, -⟩ :=
    Reader.exists_close_of_run hrun closed
  have front_written : (written? front).isSome := by
    rw [written?_eq_some_iff.mpr ⟨r₁, hfront, none_open, rfl⟩]
    rfl
  rcases List.append_eq_append_iff.mp heq with ⟨more, rfl, hback⟩ | ⟨more, htext, hback⟩
  · rcases more with _ | ⟨c, _ | ⟨d, more⟩⟩
    · simpa using front_written
    · simp at hback
    · simp at hback
  · rcases more with _ | ⟨c, more⟩
    · rwa [htext, List.append_nil]
    · -- The parenthesis that closes the group stands within the text.
      simp only [List.cons_append, List.cons.injEq] at hback
      obtain ⟨rfl, -⟩ := hback
      have closing : text.take (front.length + 1) = front ++ [')'] := by
        rw [htext, List.append_cons]
        exact List.take_left' (by simp)
      have := own front.length (by simp [htext]) (by simp [htext])
        (by rwa [htext, List.take_left])
      rw [closing, written?, not_own] at this
      cases this

/-- A text that closes a group it has not opened is no pattern on its own. -/
theorem closesOwn_of_written? {text : List Char} (alone : (written? text).isSome) :
    ClosesOwn text := by
  intro i hi hclose hfront
  by_contra closes
  obtain ⟨found, hfound⟩ := Option.isSome_iff_exists.mp hfront
  obtain ⟨r, hrun, none_open, -⟩ := written?_eq_some_iff.mp hfound
  obtain ⟨_, htext⟩ := List.getElem?_eq_some_iff.mp hclose
  have closing : text.take (i + 1) = text.take i ++ [')'] := by
    rw [List.take_add_one, hclose]
    rfl
  have whole : text = text.take i ++ ')' :: text.drop (i + 1) := by
    rw [List.append_cons, ← closing, List.take_append_drop]
  rw [closing] at closes
  obtain stops | hides := Reader.run_append_close hrun
  · have := stops [] (text.drop (i + 1))
    rw [Reader.within_nil, Reader.within_nil, Reader.closeGroup, none_open, ← whole] at this
    simp [written?, this] at alone
  · have hidden := hides [] [] (by simp)
    rw [Reader.within_nil, Reader.within_nil] at hidden
    rw [written?_eq_some_iff.mpr ⟨r, hidden, none_open, rfl⟩] at closes
    exact closes rfl

/-- A text can be put between anchors: if that makes a pattern, no group is closed that the text
has not opened; if the text is a pattern, it does not end in a comment; and the limits are not
passed because of the anchors. -/
structure Enclosable (text : List Char) : Prop where
  closes_own : (read? (anchored text)).isSome → ClosesOwn text
  open_end : (read? text).isSome → ¬EndsInComment text
  limits : ¬EndsInComment text → ∀ found ∈ written? text,
    withinLimits (between found.1) (found.2 + 2) = withinLimits found.1 found.2

theorem read?_eq_some_iff {text : List Char} {p : Pattern} :
    read? text = some p ↔ ∃ depth, written? text = some (p, depth) ∧ withinLimits p depth := by
  simp [read?_eq_written?, Option.bind_eq_some_iff]

theorem isSome_written?_of_read? {text : List Char} (h : (read? text).isSome) :
    (written? text).isSome := by
  obtain ⟨p, hp⟩ := Option.isSome_iff_exists.mp h
  obtain ⟨depth, hwritten, -⟩ := read?_eq_some_iff.mp hp
  rw [hwritten]
  rfl

theorem Enclosable.read?_anchored {text : List Char} (h : Enclosable text) :
    read? (anchored text) = (read? text).map between := by
  rcases alone : read? text with _ | p
  · by_contra pasted
    have pasted := Option.isSome_iff_ne_none.mpr pasted
    have pasted' := isSome_written?_of_read? pasted
    obtain ⟨⟨p, depth⟩, hp⟩ :=
      Option.isSome_iff_exists.mp (isSome_written?_of_anchored (h.closes_own pasted) pasted')
    have open_end : ¬EndsInComment text := fun comment => by
      simp [written?_anchored_of_comment comment] at pasted'
    have := h.limits open_end _ hp
    simp_all [read?_eq_written?, written?_anchored hp open_end]
  · obtain ⟨depth, hp, hlimits⟩ := read?_eq_some_iff.mp alone
    have open_end := h.open_end (by rw [alone]; rfl)
    refine read?_eq_some_iff.mpr ⟨depth + 2, written?_anchored hp open_end, ?_⟩
    rw [h.limits open_end _ hp]
    exact hlimits

/-- A text that is a pattern on its own exactly if it is one between anchors can be put between
anchors. -/
theorem enclosable_of_isSome {text : List Char}
    (same : (read? (anchored text)).isSome = (read? text).isSome) : Enclosable text where
  closes_own pasted := closesOwn_of_written? (isSome_written?_of_read? (same ▸ pasted))
  open_end alone comment := by
    have pasted := isSome_written?_of_read? (same.trans alone)
    rw [written?_anchored_of_comment comment] at pasted
    cases pasted
  limits open_end found hfound := by
    obtain ⟨p, depth⟩ := found
    rw [read?_eq_written?, read?_eq_written?, hfound, written?_anchored hfound open_end] at same
    simp only [Option.bind_some] at same
    split at same <;> split at same <;> simp_all

instance (text : List Char) : Decidable (Enclosable text) :=
  decidable_of_iff ((read? (anchored text)).isSome = (read? text).isSome)
    ⟨enclosable_of_isSome, fun h => by rw [h.read?_anchored, Option.isSome_map]⟩

/-! ## Anchors ask for the whole text -/

theorem before_isNone_iff {text : Array Char} {i : Nat} (hi : i ≤ text.size) :
    (before text i).isNone ↔ i = 0 := by
  simp only [before]
  split
  next h => simp [h]
  next h =>
    have : i - 1 < text.size := by omega
    simp [this, h]

/-- Anchors leave no stretch but the whole text. -/
theorem matches_between_iff {text : Array Char} {p : Pattern} {i j : Nat} (hi : i ≤ text.size) :
    Matches text (between p) i j ↔ i = 0 ∧ j = text.size ∧ Matches text p 0 text.size := by
  constructor
  · intro h
    cases h with
    | concat first others =>
    cases first with
    | assertion start =>
    cases others with
    | concat inside last =>
    cases inside with
    | group inside =>
    cases last with
    | assertion finish =>
    obtain rfl := (before_isNone_iff hi).mp start
    have hj : text.size ≤ j := by simpa [Assertion.holds] using finish
    have : j = text.size := by
      have := inside.eq_or_le_size
      omega
    subst this
    exact ⟨rfl, rfl, inside⟩
  · rintro ⟨rfl, rfl, h⟩
    refine .concat (.assertion ?_) (.concat (.group h) (.assertion ?_))
    · exact (before_isNone_iff hi).mpr rfl
    · simp [Assertion.holds]

theorem occursIn_between {p : Pattern} (wf : p.WellFormed) (text : List Char) :
    (between p).occursIn text = p.matchesAll text := by
  have wf' : (between p).WellFormed := ⟨trivial, wf, trivial⟩
  rw [Bool.eq_iff_iff, occursIn_iff wf', matchesAll_iff_covers wf, Covers]
  constructor
  · rintro ⟨i, hi, j, h⟩
    exact ((matches_between_iff (by simpa using hi)).mp h).2.2
  · intro h
    exact ⟨0, Nat.zero_le _, text.length, (matches_between_iff (Nat.zero_le _)).mpr ⟨rfl, rfl, h⟩⟩

/-- Where a text can be put between anchors, a full match is a match of the pattern that the text
stands for on its own, with the whole text. -/
theorem fullMatch?_eq {pattern : String} (h : Enclosable pattern.toList) (text : String) :
    fullMatch? pattern text = (read? pattern.toList).map (·.matchesAll text.toList) := by
  rw [fullMatch?, h.read?_anchored, Option.map_map]
  refine Option.map_congr fun p hp => ?_
  exact occursIn_between (read?_wellFormed hp) text.toList

end DocQuery.Pattern
