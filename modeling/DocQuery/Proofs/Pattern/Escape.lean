import Mathlib
import DocQuery.Pattern.Escape
import DocQuery.Proofs.Pattern.Steady

/-!
# Escapes at the End of a Text
-/

namespace DocQuery.Pattern

open DocQuery.Text Take

namespace Take

/-- Exactly `n` hexadecimal digits. -/
def hexDigits (f : Flags) : (n : Nat) → Take (List Char)
  | 0 => return []
  | n + 1 => do
    let c ← next
    if Escape.isHexDigit c then
      skip f
      let ds ← hexDigits f n
      return c :: ds
    else failure

/-- A number of exactly `digits` digits, or of any length in braces. -/
def hexNumber (f : Flags) (digits : Nat) : Take Escape := do
  skip f
  onNext '{'
    (do
      let ds ← upTo f '}'
      if ds.isEmpty || !ds.all Escape.isHexDigit then failure
      else
        let c ← lift (Escape.numbered? (Escape.hexValue ds))
        skip f
        return .literal c)
    (do
      let ds ← hexDigits f digits
      let c ← lift (Escape.numbered? (Escape.hexValue ds))
      return if digits = 2 then .byte c else .literal c)

/-- The property that goes by `name`. -/
def propertyNamed (f : Flags) (negated : Bool) (name : List Char) : Take Escape :=
  if !f.unicode then failure
  else do
    let s ← lift (NamedSet.property? name)
    return .set ((f.foldCase s).negateIf negated)

/-- The name of a property: one letter, or a name in braces. -/
def property (f : Flags) (negated : Bool) : Take Escape := do
  skip f
  onNext '{'
    (do
      let name ← upTo f '}'
      propertyNamed f negated name)
    (do
      let c ← next
      if c = '\\' then failure
      else
        skip f
        propertyNamed f negated [c])

/-- The name of a kind of word boundary, and the brace behind it. -/
def boundaryName (f : Flags) : Take Escape := do
  let name ← taking f fun c => c.isAlpha || c == '-'
  onNext '}'
    (do
      let kind ← lift (Escape.boundary? name)
      return .assertion (.boundary kind (!f.unicode)))
    failure

end Take

namespace Escape

theorem hexDigits_eq (f : Flags) (n : Nat) : hexDigits f n = takeHex f n := by
  induction n with
  | zero => rfl
  | succ n ih =>
    funext cs
    cases cs with
    | nil => rfl
    | cons c rest =>
      simp only [takeHex, hexDigits, bind_apply, next_cons, Option.bind_some, ih]
      split <;> simp

theorem hexNumber_eq (f : Flags) (digits : Nat) : hexNumber f digits = readHex f digits := by
  funext cs
  simp only [readHex, hexNumber, bind_apply, skip_apply, Option.bind_some, hexDigits_eq]
  rcases f.skip cs with _ | ⟨c, rest⟩
  · simp [Function.comp_def]
  · by_cases hc : c = '{'
    · subst hc
      simp only [onNext_same, bind_apply, upTo_apply]
      rcases f.takeWhile (· != '}') rest with ⟨ds, _ | ⟨_, left⟩⟩
      · rfl
      · simp only [Option.bind_some]
        split <;> simp [Option.map_eq_bind, Option.bind_assoc]
    · simp [hc, Function.comp_def]

theorem property_eq (f : Flags) (negated : Bool) : property f negated = readProperty f negated := by
  funext cs
  simp only [readProperty, property, bind_apply, skip_apply, Option.bind_some]
  rcases f.skip cs with _ | ⟨c, rest⟩
  · rfl
  · by_cases hc : c = '{'
    · subst hc
      simp only [onNext_same, bind_apply, upTo_apply]
      rcases f.takeWhile (· != '}') rest with ⟨name, _ | ⟨_, left⟩⟩
      · rfl
      · simp only [Option.bind_some, propertyNamed]
        split <;> simp [Option.map_eq_bind, Option.bind_assoc]
    · simp only [ne_eq, hc, not_false_eq_true, onNext_of_ne, bind_apply, next_cons,
        Option.bind_some]
      split
      · rfl
      · simp only [bind_apply, skip_apply, Option.bind_some, propertyNamed]
        split <;> simp [Option.map_eq_bind, Option.bind_assoc]

theorem steady_takeHex (f : Flags) (n : Nat) : Steady (takeHex f n) := by
  rw [← hexDigits_eq]
  induction n with
  | zero => exact steady_pure []
  | succ n ih =>
    refine steady_next.bind fun c => .ite ?_ steady_failure
    exact (steady_skip f).bind fun _ => ih.bind fun ds => steady_pure (c :: ds)

theorem steady_readHex (f : Flags) (digits : Nat) :
    Steady (readHex f digits : Take Escape) := by
  rw [← hexNumber_eq]
  refine (steady_skip f).bind fun _ => steadyBut_onNext (by decide) ?_ ?_
  · refine (steady_upTo f '}').bind fun ds => .ite steady_failure ?_
    exact (steady_lift _).bind fun c => (steady_skip f).bind fun _ => steady_pure (literal c)
  · rw [hexDigits_eq]
    exact (steady_takeHex f digits).bind fun ds => (steady_lift _).bind fun c => steady_pure _

theorem steady_propertyNamed (f : Flags) (negated : Bool) (name : List Char) :
    Steady (propertyNamed f negated name) :=
  .ite steady_failure ((steady_lift _).bind fun _ => steady_pure _)

theorem steady_readProperty (f : Flags) (negated : Bool) :
    Steady (readProperty f negated : Take Escape) := by
  rw [← property_eq]
  refine (steady_skip f).bind fun _ => steadyBut_onNext (by decide) ?_ ?_
  · exact (steady_upTo f '}').bind fun name => steady_propertyNamed f negated name
  · refine steady_next.bind fun c => .ite steady_failure ?_
    exact (steady_skip f).bind fun _ => steady_propertyNamed f negated [c]

/-- A word boundary with a brace behind it that nothing follows. -/
def DanglingBrace (f : Flags) (e : Escape) (left : List Char) : Prop :=
  (∃ a, e = assertion a) ∧ ∃ rest, left = '{' :: rest ∧ f.skip rest = []

theorem readBoundary_of_ne {f : Flags} {cs : List Char} (hcs : cs.head? ≠ some '{') :
    readBoundary f cs = some (assertion (.boundary .either (!f.unicode)), cs) := by
  rcases cs with _ | ⟨c, rest⟩
  · rfl
  · have hc : c ≠ '{' := by simpa using hcs
    simp [readBoundary, hc]

theorem readBoundary_brace (f : Flags) (rest : List Char) :
    readBoundary f ('{' :: rest) =
      match f.skip rest with
      | [] => none
      | c :: inside =>
        if c.isAlpha || c == '-' then boundaryName f (c :: inside)
        else some (assertion (.boundary .either (!f.unicode)), '{' :: rest) := by
  simp only [readBoundary]
  rcases f.skip rest with _ | ⟨c, inside⟩
  · rfl
  · by_cases hc : (c.isAlpha || c == '-') = true
    · simp only [hc, boundaryName, bind_apply, taking_apply, Option.bind_some]
      rcases f.takeWhile (fun c => c.isAlpha || c == '-') (c :: inside) with
        ⟨name, _ | ⟨d, left⟩⟩
      · rfl
      · by_cases hd : d = '}'
        · subst hd
          simp [Option.map_eq_bind, Option.bind_assoc]
        · simp [hd]
    · simp [hc]

theorem steady_boundaryName (f : Flags) : Steady (boundaryName f) :=
  (steady_taking f (by decide)).bind fun name =>
    steadyBut_onNext (by decide) ((steady_lift _).bind fun _ => steady_pure _) steady_failure

theorem steadyAt_readBoundary_of_ne {f : Flags} {cs : List Char} (hcs : cs.head? ≠ some '{') :
    SteadyAt (DanglingBrace f) (readBoundary f : Take Escape) cs where
  keeps h := by
    cases (readBoundary_of_ne hcs).symm.trans h
    left
    intro back
    apply readBoundary_of_ne
    rcases cs with _ | ⟨c, rest⟩
    · simp
    · simpa using hcs
  leaves fails := by
    cases (readBoundary_of_ne hcs).symm.trans fails

theorem steadyAt_readBoundary_brace (f : Flags) (rest : List Char) :
    SteadyAt (DanglingBrace f) (readBoundary f : Take Escape) ('{' :: rest) where
  keeps {e left} h := by
    rw [readBoundary_brace] at h
    split at h
    · cases h
    next c inside hskip =>
      split at h
      next named =>
        have same (back) : readBoundary f ('{' :: rest ++ ')' :: back) =
            boundaryName f (c :: inside ++ ')' :: back) := by
          rw [List.cons_append, readBoundary_brace, skip_append_of_cons hskip]
          simp [named]
        obtain keeps | ⟨rfl, swallows⟩ := (steady_boundaryName f).keeps h
        · exact .inl fun back => (same back).trans (keeps back)
        · refine .inr ⟨rfl, fun back => ?_⟩
          rw [same]
          exact swallows back
      next plain =>
        cases h
        left
        intro back
        rw [List.cons_append, readBoundary_brace, skip_append_of_cons hskip]
        simp [plain]
  leaves {back e left} fails h := by
    rw [readBoundary_brace] at fails
    rw [List.cons_append, readBoundary_brace] at h
    rcases hskip : f.skip rest with _ | ⟨c, inside⟩
    · -- Nothing follows the brace in front of the parenthesis.
      have hgap : DanglingBrace f (assertion (.boundary .either (!f.unicode))) ('{' :: rest) :=
        ⟨⟨_, rfl⟩, rest, rfl, hskip⟩
      split at h
      · cases h
      next c inside hskip' =>
        split at h
        next named =>
          obtain keeps | ⟨-, skipped⟩ := skip_append f rest
          · obtain ⟨rfl, rfl⟩ : c = ')' ∧ inside = back := by
              simpa [hskip, hskip'] using keeps back
            exact absurd named (by decide)
          · have within : c :: inside <:+ back := hskip' ▸ (skipped back).1
            have := ((steady_boundaryName f).suffix h).trans within
            exact absurd this (not_append_suffix left back)
        next =>
          simp only [Option.some.injEq, Prod.mk.injEq, ← List.cons_append,
            List.append_cancel_right_eq] at h
          exact h.2 ▸ h.1 ▸ hgap
    · rw [skip_append_of_cons hskip] at h
      simp only [hskip] at fails
      split at fails
      next named =>
        simp only [named] at h
        exact ((steady_boundaryName f).leaves fails h).elim
      next => cases fails

theorem steadyBut_readBoundary (f : Flags) :
    SteadyBut (DanglingBrace f) (readBoundary f : Take Escape) where
  suffix {cs e left} h := by
    by_cases hcs : cs.head? = some '{'
    · obtain ⟨rest, rfl⟩ := List.head?_eq_some_iff.mp hcs
      rw [readBoundary_brace] at h
      have within : f.skip rest <:+ '{' :: rest :=
        ((steady_skip f).suffix (skip_apply f rest)).trans (List.suffix_cons _ _)
      split at h
      · cases h
      next c inside hskip =>
        split at h
        · exact ((steady_boundaryName f).suffix h).trans (hskip ▸ within)
        · cases h
          exact List.suffix_refl _
    · cases (readBoundary_of_ne hcs).symm.trans h
      exact List.suffix_refl _
  steadyAt cs := by
    by_cases hcs : cs.head? = some '{'
    · obtain ⟨rest, rfl⟩ := List.head?_eq_some_iff.mp hcs
      exact steadyAt_readBoundary_brace f rest
    · exact steadyAt_readBoundary_of_ne hcs

/-- What `c` stands for behind a backslash if nothing else belongs to the escape. -/
def short? (f : Flags) (c : Char) : Option Escape :=
  if isMark c then some (literal c)
  else
    ((shorthand? f c).map set).or
      (((control? c).map literal).or ((assertion? f c).map assertion))

theorem read_cons_of_short {f : Flags} {c : Char} (rest : List Char) (hc : c ∉ "xuUpPb".toList) :
    read f (c :: rest) = (short? f c).map (·, rest) := by
  simp only [String.reduceToList, List.mem_cons, List.not_mem_nil, or_false, not_or] at hc
  simp only [read]
  split
  case h_7 =>
    by_cases mark : isMark c = true
    · simp [short?, mark]
    · simp only [short?, mark]
      rcases shorthand? f c with _ | s
      · rcases control? c with _ | d
        · rcases assertion? f c with _ | a <;> rfl
        · rfl
      · rfl
  all_goals simp at hc

theorem steadyBut_read (f : Flags) : SteadyBut (DanglingBrace f) (read f : Take Escape) := by
  have parts : read f = (next >>= fun c => fun rest => read f (c :: rest) : Take Escape) := by
    funext cs
    cases cs <;> rfl
  rw [parts]
  refine steady_next.bind fun c => ?_
  by_cases hc : c ∈ "xuUpPb".toList
  · simp only [String.reduceToList, List.mem_cons, List.not_mem_nil, or_false] at hc
    obtain rfl | rfl | rfl | rfl | rfl | rfl := hc
    · exact (steady_readHex f 2).but
    · exact (steady_readHex f 4).but
    · exact (steady_readHex f 8).but
    · exact (steady_readProperty f false).but
    · exact (steady_readProperty f true).but
    · exact steadyBut_readBoundary f
  · simp only [read_cons_of_short _ hc]
    exact (steady_lift (short? f c)).but

end Escape

end DocQuery.Pattern
