import Mathlib
import DocQuery.Pattern.Flags

/-!
# Reading up to a Closing Parenthesis

A pattern may be read on its own, or as the inside of a group.  In the second case a closing
parenthesis stands where the text ended in the first.  Most of what reads a part of a pattern
does not tell the two apart: it stops at the parenthesis just as it stops at the end.

There are two exceptions.  Something that fails at the end may go on and take the parenthesis
for itself, as a backslash does.  And if the text ends within a comment, the parenthesis belongs
to the comment.

## Main definitions

- `Take`: what reads a part of a text
- `Keeps`, `Swallows`: what becomes of a parenthesis behind the text
- `SteadyBut`, `Steady`: reading that does not tell the end from a parenthesis

## Main results

- `SteadyBut.bind`: reading one part after another is steady
-/

namespace DocQuery.Pattern

open DocQuery.Text

/-- A way to take something off the front of a text. -/
abbrev Take (α : Type) := StateT (List Char) Option α

/-! ## Steady reading -/

section Steady

variable {α β : Type}

/-- A parenthesis behind `cs` is left where it is, together with what follows it. -/
def Keeps (R : Take α) (cs : List Char) (a : α) (left : List Char) : Prop :=
  ∀ back, R (cs ++ ')' :: back) = some (a, left ++ ')' :: back)

/-- A parenthesis behind `cs` is skipped, and so is what follows it on its line. -/
def Swallows (R : Take α) (cs : List Char) (a : α) : Prop :=
  ∀ back, (∀ b left, R (cs ++ ')' :: back) = some (b, left) → left <:+ back) ∧
    ('\n' ∉ back → R (cs ++ ')' :: back) = some (a, []))

/-- Reading `cs` with `R` does not tell the end of the text from a closing parenthesis, except
where `gap` says so of what has been read and what is left. -/
structure SteadyAt (gap : α → List Char → Prop) (R : Take α) (cs : List Char) : Prop where
  /-- What succeeds at the end succeeds before a parenthesis. -/
  keeps {a : α} {left : List Char} (h : R cs = some (a, left)) :
    Keeps R cs a left ∨ left = [] ∧ Swallows R cs a
  /-- What fails at the end does not leave the parenthesis where it is. -/
  leaves {back : List Char} {a : α} {left : List Char} (fails : R cs = none)
    (h : R (cs ++ ')' :: back) = some (a, left ++ ')' :: back)) : gap a left

/-- Reading with `R` is steady wherever it starts, except for `gap`. -/
structure SteadyBut (gap : α → List Char → Prop) (R : Take α) : Prop where
  /-- What is left is the end of what was there. -/
  suffix {cs : List Char} {a : α} {left : List Char} (h : R cs = some (a, left)) : left <:+ cs
  steadyAt (cs : List Char) : SteadyAt gap R cs

/-- Reading with `R` does not tell the end of a text from a closing parenthesis. -/
abbrev Steady (R : Take α) : Prop := SteadyBut (fun _ _ => False) R

theorem not_append_suffix (left back : List Char) : ¬ left ++ ')' :: back <:+ back := by
  intro h
  have := h.length_le
  simp at this
  omega

theorem SteadyBut.keeps {gap : α → List Char → Prop} {R : Take α} (hR : SteadyBut gap R)
    {cs : List Char} {a : α} {left : List Char} (h : R cs = some (a, left)) :
    Keeps R cs a left ∨ left = [] ∧ Swallows R cs a :=
  (hR.steadyAt cs).keeps h

theorem SteadyBut.leaves {gap : α → List Char → Prop} {R : Take α} (hR : SteadyBut gap R)
    {cs back : List Char} {a : α} {left : List Char} (fails : R cs = none)
    (h : R (cs ++ ')' :: back) = some (a, left ++ ')' :: back)) : gap a left :=
  (hR.steadyAt cs).leaves fails h

/-- What succeeds before a parenthesis that it leaves succeeds at the end. -/
theorem SteadyBut.eq_some_or {gap : α → List Char → Prop} {R : Take α} (hR : SteadyBut gap R)
    {cs back : List Char} {a : α} {left : List Char}
    (h : R (cs ++ ')' :: back) = some (a, left ++ ')' :: back)) :
    R cs = some (a, left) ∨ gap a left := by
  cases hcs : R cs with
  | none => exact .inr (hR.leaves hcs h)
  | some found =>
    obtain ⟨b, mid⟩ := found
    obtain keeps | ⟨-, swallows⟩ := hR.keeps hcs
    · have same := (keeps back).symm.trans h
      simp only [Option.some.injEq, Prod.mk.injEq, List.append_cancel_right_eq] at same
      exact .inl (by rw [same.1, same.2])
    · exact absurd ((swallows back).1 _ _ h) (not_append_suffix left back)

/-- What `R` reads satisfies `P`. -/
def Yields (P : α → Prop) (R : Take α) : Prop :=
  ∀ (cs : List Char) (a : α) (left : List Char), R cs = some (a, left) → P a

/-- Where there is a gap, what has been read is still something that `R` can read. -/
theorem SteadyBut.and {gap : α → List Char → Prop} {R : Take α} (hR : SteadyBut gap R)
    {P : α → Prop} (hP : Yields P R) : SteadyBut (fun a left => gap a left ∧ P a) R :=
  ⟨hR.suffix, fun _ => ⟨hR.keeps, fun fails h => ⟨hR.leaves fails h, hP _ _ _ h⟩⟩⟩

theorem SteadyBut.but {gap : α → List Char → Prop} {R : Take α} (hR : Steady R) :
    SteadyBut gap R :=
  ⟨hR.suffix, fun _ => ⟨hR.keeps, fun fails h => (hR.leaves fails h).elim⟩⟩

/-! ## Reading one part after another -/

@[simp] theorem Take.bind_apply (R : Take α) (S : α → Take β) (cs : List Char) :
    (R >>= S) cs = (R cs).bind fun x => S x.1 x.2 := rfl

@[simp] theorem Take.map_apply (g : α → β) (R : Take α) (cs : List Char) :
    (g <$> R) cs = (R cs).map fun x => (g x.1, x.2) := by
  simp only [map_eq_pure_bind, Take.bind_apply, Option.map_eq_bind]
  rfl

@[simp] theorem Take.pure_apply (a : α) (cs : List Char) :
    (pure a : Take α) cs = some (a, cs) := rfl

@[simp] theorem Take.failure_apply (cs : List Char) : (failure : Take α) cs = none := rfl

theorem Take.bind_eq_some {R : Take α} {S : α → Take β} {cs left : List Char} {b : β} :
    (R >>= S) cs = some (b, left) ↔ ∃ a mid, R cs = some (a, mid) ∧ S a mid = some (b, left) := by
  simp [Option.bind_eq_some_iff]

theorem steady_pure (a : α) : Steady (pure a : Take α) where
  suffix h := by
    cases h
    exact List.suffix_refl _
  steadyAt _ :=
    { keeps h := by
        cases h
        exact .inl fun _ => rfl
      leaves fails _ := nomatch fails }

theorem steady_failure : Steady (failure : Take α) where
  suffix h := nomatch h
  steadyAt _ :=
    { keeps h := nomatch h
      leaves _ h := nomatch h }

/-- What `R` and then `S` leave is the end of what was there. -/
theorem suffix_bind {R : Take α} {S : α → Take β}
    (hR : ∀ {cs a left}, R cs = some (a, left) → left <:+ cs)
    (hS : ∀ {a cs b left}, S a cs = some (b, left) → left <:+ cs) {cs : List Char} {b : β}
    {left : List Char} (h : (R >>= S) cs = some (b, left)) : left <:+ cs := by
  obtain ⟨a, mid, first, second⟩ := Take.bind_eq_some.mp h
  exact (hS second).trans (hR first)

/-- One part after another; a gap of the first must end in one of both. -/
theorem SteadyAt.bind {gap : α → List Char → Prop} {gap' : β → List Char → Prop} {R : Take α}
    {S : α → Take β} {cs : List Char} (hR : SteadyBut gap R)
    (suffix : ∀ {a cs b left}, S a cs = some (b, left) → left <:+ cs)
    (hS : ∀ a mid, R cs = some (a, mid) → SteadyAt gap' (S a) mid)
    (absorb : ∀ a mid back b left, gap a mid →
      S a (mid ++ ')' :: back) = some (b, left ++ ')' :: back) → gap' b left) :
    SteadyAt gap' (R >>= S) cs where
  keeps h := by
    obtain ⟨a, mid, first, second⟩ := Take.bind_eq_some.mp h
    -- the first part keeps what follows, or it is at the end, and the second one takes nothing
    obtain keeps | ⟨rfl, swallows⟩ := hR.keeps first
    · obtain keeps' | ⟨rfl, swallows⟩ := (hS a mid first).keeps second
      · left
        intro back
        exact Take.bind_eq_some.mpr ⟨a, _, keeps back, keeps' back⟩
      · refine .inr ⟨rfl, fun back => ⟨fun b left h => ?_, fun line => ?_⟩⟩
        · rw [Take.bind_apply, keeps back] at h
          exact (swallows back).1 b left h
        · exact Take.bind_eq_some.mpr ⟨a, _, keeps back, (swallows back).2 line⟩
    · obtain rfl := List.suffix_nil.mp (suffix second)
      refine .inr ⟨rfl, fun back => ⟨fun b left h => ?_, fun line => ?_⟩⟩
      · obtain ⟨a', mid, first', second'⟩ := Take.bind_eq_some.mp h
        exact (suffix second').trans ((swallows back).1 _ _ first')
      · exact Take.bind_eq_some.mpr ⟨a, _, (swallows back).2 line, second⟩
  leaves {back b left} fails h := by
    obtain ⟨a, mid, first, second⟩ := Take.bind_eq_some.mp h
    -- the second part ends in front of the parenthesis, so the first one does too
    obtain ⟨front, hfront⟩ := suffix second
    rw [← List.append_assoc] at hfront
    subst hfront
    obtain first | hgap := hR.eq_some_or first
    · rw [Take.bind_apply, first] at fails
      exact (hS a _ first).leaves fails second
    · exact absorb a _ back b left hgap second

theorem SteadyBut.bind_of {gap : α → List Char → Prop} {gap' : β → List Char → Prop} {R : Take α}
    {S : α → Take β} (hR : SteadyBut gap R) (hS : ∀ a, SteadyBut gap' (S a))
    (absorb : ∀ a mid back b left, gap a mid →
      S a (mid ++ ')' :: back) = some (b, left ++ ')' :: back) → gap' b left) :
    SteadyBut gap' (R >>= S) where
  suffix := suffix_bind hR.suffix (hS _).suffix
  steadyAt _ :=
    .bind hR (hS _).suffix (fun a mid _ => (hS a).steadyAt mid) absorb

theorem SteadyBut.bind {gap : β → List Char → Prop} {R : Take α} {S : α → Take β}
    (hR : Steady R) (hS : ∀ a, SteadyBut gap (S a)) : SteadyBut gap (R >>= S) :=
  SteadyBut.bind_of hR hS fun _ _ _ _ _ h => h.elim

/-- Nothing is left. -/
def AtEnd (_ : α) (left : List Char) : Prop := left = []

/-- If the first part does not get past the parenthesis, neither does the second. -/
theorem SteadyBut.bind_atEnd {R : Take α} {S : α → Take β} (hR : SteadyBut AtEnd R)
    (hS : ∀ a, SteadyBut AtEnd (S a)) : SteadyBut AtEnd (R >>= S) := by
  refine hR.bind_of hS fun a mid back b left hmid h => ?_
  have := ((hS a).suffix h).length_le
  simp only [AtEnd] at hmid
  simp [hmid] at this
  simpa [AtEnd] using this

/-- Whether reading is steady at a text depends on that text and what may follow it. -/
theorem SteadyAt.congr {gap : α → List Char → Prop} {R S : Take α} {cs : List Char}
    (hS : SteadyAt gap S cs) (same : R cs = S cs)
    (same' : ∀ back, R (cs ++ ')' :: back) = S (cs ++ ')' :: back)) : SteadyAt gap R cs where
  keeps h := by
    simp only [Keeps, Swallows, same']
    exact hS.keeps (same ▸ h)
  leaves fails h := hS.leaves (same ▸ fails) (same' _ ▸ h)

theorem SteadyBut.ite {gap : α → List Char → Prop} {R S : Take α} {c : Prop} [Decidable c]
    (hR : SteadyBut gap R) (hS : SteadyBut gap S) : SteadyBut gap (if c then R else S) := by
  split
  · exact hR
  · exact hS

/-! ## Reading that takes something -/

/-- Reading with `R` takes at least one character. -/
def Consumes (R : Take α) : Prop :=
  ∀ (cs : List Char) (a : α) (left : List Char), R cs = some (a, left) → left.length < cs.length

theorem Consumes.bind {R : Take α} {S : α → Take β} (hR : Consumes R)
    (hS : ∀ {a cs b left}, S a cs = some (b, left) → left <:+ cs) : Consumes (R >>= S) := by
  intro cs b left h
  obtain ⟨a, mid, first, second⟩ := Take.bind_eq_some.mp h
  exact Nat.lt_of_le_of_lt (hS second).length_le (hR _ _ _ first)

theorem Consumes.bind_right {R : Take α} {S : α → Take β}
    (hR : ∀ {cs a left}, R cs = some (a, left) → left <:+ cs) (hS : ∀ a, Consumes (S a)) :
    Consumes (R >>= S) := by
  intro cs b left h
  obtain ⟨a, mid, first, second⟩ := Take.bind_eq_some.mp h
  exact Nat.lt_of_lt_of_le (hS a _ _ _ second) (hR first).length_le

theorem yields_pure {P : α → Prop} {a : α} (ha : P a) : Yields P (pure a : Take α) := by
  rintro _ _ _ ⟨⟩
  exact ha

theorem yields_failure {P : α → Prop} : Yields P (failure : Take α) := nofun

theorem Yields.bind {P : α → Prop} {Q : β → Prop} {R : Take α} {S : α → Take β}
    (hR : Yields P R) (hS : ∀ a, P a → Yields Q (S a)) : Yields Q (R >>= S) := by
  intro cs b left h
  obtain ⟨a, mid, first, second⟩ := Take.bind_eq_some.mp h
  exact hS a (hR _ _ _ first) _ _ _ second

/-- Nothing is known about the first part. -/
theorem Yields.bind_right {Q : β → Prop} {R : Take α} {S : α → Take β}
    (hS : ∀ a, Yields Q (S a)) : Yields Q (R >>= S) :=
  Yields.bind (P := fun _ => True) (fun _ _ _ _ => trivial) fun a _ => hS a

theorem Yields.ite {P : α → Prop} {R S : Take α} {c : Prop} [Decidable c]
    (hR : c → Yields P R) (hS : ¬c → Yields P S) : Yields P (if c then R else S) := by
  split
  next h => exact hR h
  next h => exact hS h

theorem Consumes.ite {R S : Take α} {c : Prop} [Decidable c] (hR : Consumes R)
    (hS : Consumes S) : Consumes (if c then R else S) := by
  split
  · exact hR
  · exact hS

end Steady

/-! ## The parts that readers are made of -/

namespace Flags

section TakeFrom

variable {f : Flags} {p : Char → Bool}

theorem takeFrom_suffix (inComment : Bool) (cs : List Char) :
    (f.takeFrom p inComment cs).2 <:+ cs := by
  induction cs generalizing inComment with
  | nil => simp [takeFrom]
  | cons c rest ih =>
    simp only [takeFrom]
    split_ifs
    · exact (ih _).trans (List.suffix_cons c rest)
    · exact (ih _).trans (List.suffix_cons c rest)
    · exact (ih _).trans (List.suffix_cons c rest)
    · exact (ih _).trans (List.suffix_cons c rest)
    · exact List.suffix_refl _

/-- What is taken from a text that goes on is the same if something is left of the text;
otherwise it goes on in the rest, inside a comment or outside. -/
theorem takeFrom_append (inComment : Bool) (cs : List Char) :
    (∃ c left, (f.takeFrom p inComment cs).2 = c :: left ∧ ∀ back,
      f.takeFrom p inComment (cs ++ back) =
        ((f.takeFrom p inComment cs).1, c :: left ++ back)) ∨
    ((f.takeFrom p inComment cs).2 = [] ∧ ∃ within, ∀ back,
      f.takeFrom p inComment (cs ++ back) =
        ((f.takeFrom p inComment cs).1 ++ (f.takeFrom p within back).1,
          (f.takeFrom p within back).2)) := by
  induction cs generalizing inComment with
  | nil => exact .inr ⟨rfl, inComment, fun _ => rfl⟩
  | cons c rest ih =>
    simp only [List.cons_append, takeFrom]
    split_ifs
    · exact ih _
    · exact ih _
    · exact ih _
    · obtain ⟨d, left, hleft, h⟩ | ⟨hleft, within, h⟩ := ih false
      · exact .inl ⟨d, left, hleft, fun back => by simp [h back]⟩
      · exact .inr ⟨hleft, within, fun back => by simp [h back]⟩
    · exact .inl ⟨c, rest, rfl, fun _ => rfl⟩

theorem takeFrom_comment {cs : List Char} (line : '\n' ∉ cs) : f.takeFrom p true cs = ([], []) := by
  induction cs with
  | nil => rfl
  | cons c rest ih =>
    simp only [List.mem_cons, not_or] at line
    have open_still : (c != '\n') = true := by simpa using Ne.symm line.1
    simp [takeFrom, open_still, ih line.2]

@[simp] theorem isSpace_closing : isSpace ')' = false := by decide

theorem takeFrom_closing (hp : p ')' = false) (back : List Char) :
    f.takeFrom p false (')' :: back) = ([], ')' :: back) := by
  simp [takeFrom, hp]

@[simp] theorem skip_nil (f : Flags) : f.skip [] = [] := by
  simp [skip, skipFrom]

/-- What does not count is left out by taking nothing. -/
theorem skip_eq_takeWhile (cs : List Char) : f.skip cs = (f.takeWhile (fun _ => false) cs).2 := by
  have from_eq (inComment : Bool) (spaced : f.spaced = true) :
      skipFrom inComment cs = (f.takeFrom (fun _ => false) inComment cs).2 := by
    induction cs generalizing inComment with
    | nil => rfl
    | cons c rest ih =>
      simp only [skipFrom, takeFrom, spaced, ih]
      split_ifs <;> simp_all
  simp only [skip, takeWhile]
  split
  next spaced => exact from_eq false spaced
  next not_spaced => cases cs <;> simp [takeFrom, not_spaced]

/-- Where blanks count, characters are taken as by `List.takeWhile`. -/
theorem takeWhile_of_not_spaced (h : f.spaced = false) (cs : List Char) :
    f.takeWhile p cs = (cs.takeWhile p, cs.dropWhile p) := by
  rw [takeWhile]
  induction cs with
  | nil => rfl
  | cons c rest ih =>
    simp only [takeFrom, h, List.takeWhile_cons, List.dropWhile_cons]
    by_cases hc : p c = true <;> simp [hc, ih]

end TakeFrom

end Flags

namespace Take

/-- Takes one character. -/
def next : Take Char
  | [] => none
  | c :: rest => some (c, rest)

/-- Takes characters that satisfy `p`. -/
def taking (f : Flags) (p : Char → Bool) : Take (List Char) := fun cs => some (f.takeWhile p cs)

/-- Leaves out what does not count. -/
def skip (f : Flags) : Take Unit := fun cs => some ((), f.skip cs)

/-- Takes what stands before the next `t`, which is taken as well. -/
def upTo (f : Flags) (t : Char) : Take (List Char) := do
  let found ← taking f (· != t)
  let _ ← next
  return found

/-- Looks at what is there without taking it. -/
def look {α : Type} (g : List Char → α) : Take α := fun cs => some (g cs, cs)

/-- Takes `t` and goes on with `R` if `t` comes next, and goes on with `S` otherwise. -/
def onNext {α : Type} (t : Char) (R S : Take α) : Take α := do
  if ← look fun cs => cs.head? == some t then
    let _ ← next
    R
  else S

/-- Fails at the end. -/
def more : Take Unit := fun cs => if cs = [] then none else some ((), cs)

/-- Goes on if there is a result. -/
def lift {α : Type} (found : Option α) : Take α := fun cs => found.map (·, cs)

@[simp] theorem next_nil : next [] = none := rfl

@[simp] theorem next_cons (c : Char) (rest : List Char) : next (c :: rest) = some (c, rest) := rfl

@[simp] theorem taking_apply (f : Flags) (p : Char → Bool) (cs : List Char) :
    taking f p cs = some (f.takeWhile p cs) := rfl

@[simp] theorem skip_apply (f : Flags) (cs : List Char) : skip f cs = some ((), f.skip cs) := rfl

@[simp] theorem look_apply {α : Type} (g : List Char → α) (cs : List Char) :
    look g cs = some (g cs, cs) := rfl

@[simp] theorem onNext_nil {α : Type} (t : Char) (R S : Take α) : onNext t R S [] = S [] := rfl

@[simp] theorem onNext_same {α : Type} (t : Char) (R S : Take α) (rest : List Char) :
    onNext t R S (t :: rest) = R rest := by
  simp [onNext]

@[simp] theorem onNext_of_ne {α : Type} {t c : Char} (h : c ≠ t) (R S : Take α)
    (rest : List Char) : onNext t R S (c :: rest) = S (c :: rest) := by
  simp [onNext, h]

@[simp] theorem lift_apply {α : Type} (found : Option α) (cs : List Char) :
    lift found cs = found.map (·, cs) := rfl

theorem upTo_apply (f : Flags) (t : Char) (cs : List Char) :
    upTo f t cs =
      match f.takeWhile (· != t) cs with
      | (found, _ :: left) => some (found, left)
      | (_, []) => none := by
  simp only [upTo, bind_apply, taking_apply, Option.bind_some]
  split
  next found _ left h => simp [h]
  next found h => simp [h]

theorem steady_next : Steady next where
  suffix {cs _ _} h := by
    cases cs with
    | nil => cases h
    | cons c rest =>
      cases h
      exact List.suffix_cons _ _
  steadyAt cs := by
    cases cs with
    | nil =>
      refine ⟨(nomatch ·), fun {back _ left} _ h => ?_⟩
      simp only [List.nil_append, next_cons, Option.some.injEq, Prod.mk.injEq] at h
      exact not_append_suffix left back (h.2 ▸ List.suffix_refl _)
    | cons c rest =>
      refine ⟨fun h => ?_, fun fails => nomatch fails⟩
      cases h
      exact .inl fun _ => rfl

theorem consumes_next : Consumes next := by
  intro cs c left h
  cases cs with
  | nil => cases h
  | cons d rest =>
    cases h
    exact Nat.lt_succ_self _

theorem steady_taking (f : Flags) {p : Char → Bool} (hp : p ')' = false) :
    Steady (taking f p) where
  suffix {cs _ _} h := by
    have := Flags.takeFrom_suffix (f := f) (p := p) false cs
    simp_all [taking, Flags.takeWhile]
  steadyAt cs := by
    refine ⟨fun {a left} h => ?_, fun fails => nomatch fails⟩
    simp only [taking, Flags.takeWhile, Option.some.injEq] at h
    -- taking stops in front of a character, at the end of the text, or at its end inside a comment
    obtain ⟨c, left', hleft, happ⟩ | ⟨hleft, within, happ⟩ :=
      Flags.takeFrom_append (f := f) (p := p) false cs
    · left
      intro back
      simp only [taking, Flags.takeWhile, happ]
      simp_all
    · have hnil : left = [] := by simp_all
      subst hnil
      cases within with
      | true =>
        refine .inr ⟨rfl, fun back => ?_⟩
        -- the comment goes on over the parenthesis, up to the end of its line
        have comment : f.takeFrom p true (')' :: back) = f.takeFrom p true back := rfl
        simp only [taking, Flags.takeWhile, happ, comment]
        constructor
        · rintro b left ⟨⟩
          exact Flags.takeFrom_suffix true back
        · intro line
          simp [Flags.takeFrom_comment line, h]
      | false =>
        left
        intro back
        simp [taking, Flags.takeWhile, happ, Flags.takeFrom_closing hp, h]

theorem steady_skip (f : Flags) : Steady (skip f) := by
  have : skip f = taking f (fun _ => false) >>= fun _ => pure () := by
    funext cs
    simp [skip, taking, Flags.skip_eq_takeWhile]
  rw [this]
  exact (steady_taking f rfl).bind fun _ => steady_pure ()

/-- What is skipped before a parenthesis ends there, unless the text ends in a comment. -/
theorem skip_append (f : Flags) (cs : List Char) :
    (∀ back, f.skip (cs ++ ')' :: back) = f.skip cs ++ ')' :: back) ∨
      f.skip cs = [] ∧ ∀ back, f.skip (cs ++ ')' :: back) <:+ back ∧
        ('\n' ∉ back → f.skip (cs ++ ')' :: back) = []) := by
  obtain keeps | ⟨nothing, swallows⟩ := (steady_skip f).keeps (skip_apply f cs)
  · exact .inl fun back => by simpa using keeps back
  · refine .inr ⟨nothing, fun back => ⟨(swallows back).1 () _ (skip_apply f _), fun line => ?_⟩⟩
    simpa using (swallows back).2 line

theorem skip_append_of_cons {f : Flags} {c : Char} {cs rest : List Char}
    (h : f.skip cs = c :: rest) (back : List Char) :
    f.skip (cs ++ ')' :: back) = c :: (rest ++ ')' :: back) := by
  obtain keeps | ⟨nothing, -⟩ := skip_append f cs
  · simpa [h] using keeps back
  · simp [h] at nothing

theorem steady_look {α : Type} {g : List Char → α}
    (same : ∀ cs back, g (cs ++ ')' :: back) = g cs) : Steady (look g) where
  suffix h := by
    cases h
    exact List.suffix_refl _
  steadyAt cs := by
    refine ⟨fun h => ?_, fun fails => nomatch fails⟩
    cases h
    left
    intro back
    simp [same]

theorem steadyBut_onNext {α : Type} {gap : α → List Char → Prop} {t : Char} (ht : t ≠ ')')
    {R S : Take α} (hR : SteadyBut gap R) (hS : SteadyBut gap S) :
    SteadyBut gap (onNext t R S) := by
  refine SteadyBut.bind (steady_look fun cs back => ?_) fun _ =>
    .ite (steady_next.bind fun _ => hR) hS
  cases cs with
  | nil => simpa using ht.symm
  | cons => rfl

theorem consumes_onNext {α : Type} {t : Char} {R S : Take α}
    (hR : ∀ {cs a left}, R cs = some (a, left) → left <:+ cs) (hS : Consumes S) :
    Consumes (onNext t R S) := by
  refine Consumes.bind_right (fun h => ?_) fun _ => Consumes.ite (consumes_next.bind hR) hS
  cases h
  exact List.suffix_refl _

theorem yields_onNext {α : Type} {P : α → Prop} {t : Char} {R S : Take α} (hR : Yields P R)
    (hS : Yields P S) : Yields P (onNext t R S) :=
  Yields.bind_right fun _ => Yields.ite (fun _ => Yields.bind_right fun _ => hR) fun _ => hS

theorem steady_lift {α : Type} (found : Option α) : Steady (lift found) := by
  cases found with
  | none => exact steady_failure
  | some a => exact steady_pure a

/-- At the end there is nothing more, but a parenthesis is something. -/
theorem steadyBut_more : SteadyBut AtEnd more where
  suffix {cs _ _} h := by
    simp only [more, Option.ite_none_left_eq_some, Option.some.injEq, Prod.mk.injEq] at h
    exact h.2.2 ▸ List.suffix_refl _
  steadyAt cs := by
    constructor
    · intro _ left h
      simp only [more, Option.ite_none_left_eq_some] at h
      cases h.2
      left
      intro back
      simp [more]
    · intro back _ left fails h
      simp_all [more, AtEnd]

theorem upTo_eq_some_iff {f : Flags} {t : Char} {cs a left : List Char} :
    upTo f t cs = some (a, left) ↔ ∃ c, f.takeWhile (· != t) cs = (a, c :: left) := by
  rw [upTo_apply]
  generalize f.takeWhile (· != t) cs = found
  obtain ⟨b, _ | ⟨c, rest⟩⟩ := found <;> simp

/-- What is taken up to `t` either ends before the parenthesis or goes past it. -/
theorem steady_upTo (f : Flags) (t : Char) : Steady (upTo f t) where
  suffix {cs a left} h := by
    obtain ⟨c, found⟩ := upTo_eq_some_iff.mp h
    have := Flags.takeFrom_suffix (f := f) (p := (· != t)) false cs
    rw [Flags.takeWhile] at found
    rw [found] at this
    exact (List.suffix_cons c left).trans this
  steadyAt cs := by
    constructor
    · intro a left h
      obtain ⟨c, found⟩ := upTo_eq_some_iff.mp h
      rw [Flags.takeWhile] at found
      obtain ⟨d, rest, hrest, happ⟩ | ⟨nothing, -⟩ :=
        Flags.takeFrom_append (f := f) (p := (· != t)) false cs
      · left
        intro back
        refine upTo_eq_some_iff.mpr ⟨c, ?_⟩
        simp_all [Flags.takeWhile]
      · -- at the end of the text there is nothing to stop at
        simp [found] at nothing
    · intro back a left fails h
      obtain ⟨c, found⟩ := upTo_eq_some_iff.mp h
      rw [Flags.takeWhile] at found
      obtain ⟨d, rest, hrest, -⟩ | ⟨-, within, happ⟩ :=
        Flags.takeFrom_append (f := f) (p := (· != t)) false cs
      · have := upTo_eq_some_iff (f := f).mpr ⟨d, Prod.ext rfl hrest⟩
        simp [this] at fails
      · rw [happ, Prod.mk.injEq] at found
        -- it would have gone past the parenthesis, but something is left in front of it
        have past := found.2 ▸ Flags.takeFrom_suffix (f := f) (p := (· != t)) within (')' :: back)
        have := past.length_le
        simp at this
        omega

end Take

end DocQuery.Pattern
