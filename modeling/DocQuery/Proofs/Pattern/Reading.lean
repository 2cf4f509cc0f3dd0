import Mathlib
import DocQuery.Proofs.Pattern.Construct

/-!
# Reading Construct by Construct

## Main definitions

- `Reader.WellFormed`: all patterns that the reader holds are well-formed

## Main results

- `Reader.run_eq`: the reader goes on until nothing is left
- `read?_wellFormed`: patterns that have been read are well-formed
-/

namespace DocQuery.Pattern

open DocQuery.Text Take

namespace Reader

/-- The reader takes a construct, adds it, and goes on with what is left. -/
theorem run_eq (r : Reader) (cs : List Char) :
    r.run cs =
      match r.flags.skip cs with
      | [] => some r
      | c :: rest =>
        (construct r.flags c rest).bind fun (a, left) => (a.apply r).bind (·.run left) := by
  rw [run]
  cases hskip : r.flags.skip cs with
  | nil => rfl
  | cons c rest =>
    simp only [step_eq, bind_apply]
    rcases hc : construct r.flags c rest with _ | ⟨a, left⟩
    · rfl
    · have inside := ((steadyBut_construct r.flags c).suffix hc).length_le
      have within := ((steady_skip r.flags).suffix (skip_apply r.flags cs)).length_le
      have shorter : left.length < cs.length := by
        rw [hskip, List.length_cons] at within
        omega
      rcases ha : a.apply r with _ | r'
      · simp [ha]
      · simp [ha, shorter]

theorem run_of_skip_nil {r : Reader} {cs : List Char} (h : r.flags.skip cs = []) :
    r.run cs = some r := by
  rw [run_eq, h]

theorem run_of_skip_cons {r : Reader} {c : Char} {cs rest : List Char}
    (h : r.flags.skip cs = c :: rest) :
    r.run cs = (construct r.flags c rest).bind fun x => (x.1.apply r).bind (·.run x.2) := by
  rw [run_eq, h]

theorem run_eq_some_iff {r r' : Reader} {c : Char} {cs rest : List Char}
    (h : r.flags.skip cs = c :: rest) :
    r.run cs = some r' ↔ ∃ a left r₁, construct r.flags c rest = some (a, left) ∧
      a.apply r = some r₁ ∧ r₁.run left = some r' := by
  simp [run_of_skip_cons h, Option.bind_eq_some_iff]

/-- A property that every construct keeps holds of what has been read at the end. -/
theorem run_induction {P : Reader → Prop}
    (keep : ∀ {r r' : Reader} {a : Construct} {c : Char}, a.Valid c → P r → a.apply r = some r' →
      P r')
    {r r' : Reader} {cs : List Char} (h : r.run cs = some r') (hr : P r) : P r' := by
  induction hn : cs.length using Nat.strong_induction_on generalizing r cs with
  | _ n ih =>
    rcases hskip : r.flags.skip cs with _ | ⟨c, rest⟩
    · rw [run_of_skip_nil hskip] at h
      cases h
      exact hr
    · obtain ⟨a, left, r₁, take, add, go⟩ := (run_eq_some_iff hskip).mp h
      have inside := ((steadyBut_construct r.flags c).suffix take).length_le
      have within := ((steady_skip r.flags).suffix (skip_apply r.flags cs)).length_le
      rw [hskip, List.length_cons] at within
      have valid := yields_construct r.flags c _ _ _ take
      exact ih left.length (by omega) go (keep valid hr add) rfl

/-! ## Well-formed patterns -/

/-- The patterns of the pieces and branches that have been read are well-formed. -/
structure PartsWellFormed (pieces : List Piece) (branches : List (Pattern × Nat)) : Prop where
  pieces : ∀ piece ∈ pieces, piece.pattern.WellFormed
  branches : ∀ branch ∈ branches, branch.1.WellFormed

/-- All patterns that the reader holds are well-formed. -/
structure WellFormed (r : Reader) : Prop where
  inside : PartsWellFormed r.pieces r.branches
  outside : ∀ g ∈ r.groups, PartsWellFormed g.pieces g.branches

end Reader

theorem concatAll_wellFormed {ps : List Pattern} (h : ∀ p ∈ ps, p.WellFormed) :
    (concatAll ps).WellFormed := by
  induction ps with
  | nil => trivial
  | cons p ps ih =>
    obtain ⟨hp, hps⟩ := List.forall_mem_cons.mp h
    cases ps with
    | nil => exact hp
    | cons q qs => exact ⟨hp, ih hps⟩

theorem choiceOf_wellFormed {p : Pattern} {qs : List Pattern} (hp : p.WellFormed)
    (h : ∀ q ∈ qs, q.WellFormed) : (choiceOf p qs).WellFormed := by
  induction qs generalizing p with
  | nil => exact hp
  | cons q qs ih =>
    obtain ⟨hq, hqs⟩ := List.forall_mem_cons.mp h
    exact ⟨hp, ih hq hqs⟩

namespace Reader

theorem branch_wellFormed {r : Reader} (h : PartsWellFormed r.pieces r.branches) :
    r.branch.1.WellFormed := by
  refine concatAll_wellFormed fun p hp => ?_
  obtain ⟨piece, hpiece, rfl⟩ := List.mem_map.mp hp
  exact h.pieces piece (List.mem_reverse.mp hpiece)

theorem choice_wellFormed {r : Reader} (h : PartsWellFormed r.pieces r.branches) :
    r.choice.1.WellFormed := by
  have all : ∀ b ∈ r.branches.reverse ++ [r.branch], b.1.WellFormed := by
    intro b hb
    obtain hb | hb := List.mem_append.mp hb
    · exact h.branches b (List.mem_reverse.mp hb)
    · exact List.mem_singleton.mp hb ▸ branch_wellFormed h
  simp only [choice]
  split
  · trivial
  next b bs heq =>
    rw [heq] at all
    obtain ⟨hb, hbs⟩ := List.forall_mem_cons.mp all
    refine choiceOf_wellFormed hb fun p hp => ?_
    obtain ⟨b', hb', rfl⟩ := List.mem_map.mp hp
    exact hbs b' hb'

theorem PartsWellFormed.cons {piece : Piece} {pieces : List Piece}
    {branches : List (Pattern × Nat)} (h : PartsWellFormed pieces branches)
    (hpiece : piece.pattern.WellFormed) : PartsWellFormed (piece :: pieces) branches :=
  ⟨List.forall_mem_cons.mpr ⟨hpiece, h.pieces⟩, h.branches⟩

theorem WellFormed.openNumbered {r : Reader} (h : r.WellFormed) (f : Flags)
    (number : Option Nat) : (r.openNumbered f number).WellFormed where
  inside := ⟨nofun, nofun⟩
  outside := List.forall_mem_cons.mpr ⟨h.inside, h.outside⟩

theorem WellFormed.openCounted {r : Reader} (h : r.WellFormed) : r.openCounted.WellFormed where
  inside := ⟨nofun, nofun⟩
  outside := List.forall_mem_cons.mpr ⟨h.inside, h.outside⟩

/-- Adding a construct keeps all patterns well-formed. -/
theorem WellFormed.apply {r r' : Reader} {a : Construct} {c : Char} (valid : a.Valid c)
    (h : r.WellFormed) (add : a.apply r = some r') : r'.WellFormed := by
  cases a with
  | piece p =>
    cases add
    -- the pieces read so far are well-formed, and so is the new one
    exact ⟨h.inside.cons valid, h.outside⟩
  | branch =>
    cases add
    -- the branch that ends here is put aside, and the next one starts without pieces
    exact ⟨⟨nofun, List.forall_mem_cons.mpr ⟨branch_wellFormed h.inside, h.inside.branches⟩⟩,
      h.outside⟩
  | group f =>
    cases add
    -- what stands around the new group is kept as it is
    exact h.openNumbered f none
  | counted =>
    cases add
    exact h.openCounted
  | named name =>
    simp only [Construct.apply, Option.ite_none_left_eq_some, Option.some.injEq] at add
    obtain ⟨-, rfl⟩ := add
    exact WellFormed.openCounted (r := { r with names := name :: r.names }) ⟨h.inside, h.outside⟩
  | close =>
    -- the branches of the group become one piece of what stands around it
    simp only [Construct.apply, closeGroup] at add
    split at add
    · cases add
    next g groups hgroups =>
      cases add
      have outside := h.outside
      rw [hgroups] at outside
      obtain ⟨hg, hgs⟩ := List.forall_mem_cons.mp outside
      exact ⟨hg.cons (choice_wellFormed h.inside), hgs⟩
  | flags f =>
    cases add
    exact ⟨h.inside.cons trivial, h.outside⟩
  | repetition least most turned =>
    -- the last piece is taken back and repeated
    simp only [Construct.apply] at add
    split at add
    next p depth pieces hpieces =>
      cases add
      have inside := h.inside.pieces
      rw [hpieces] at inside
      obtain ⟨hp, hps⟩ := List.forall_mem_cons.mp inside
      exact ⟨PartsWellFormed.cons ⟨hps, h.inside.branches⟩ ⟨valid, hp⟩, h.outside⟩
    · cases add

theorem finish_wellFormed {r : Reader} {p : Pattern} (hr : r.WellFormed)
    (h : r.finish = some p) : p.WellFormed := by
  simp only [finish, Option.ite_none_right_eq_some, Option.some.injEq] at h
  exact h.2 ▸ choice_wellFormed hr.inside

end Reader

/-- Patterns that have been read ask for no more rounds than they allow. -/
theorem read?_wellFormed {text : List Char} {p : Pattern} (h : read? text = some p) :
    p.WellFormed := by
  obtain ⟨h, -⟩ := Option.filter_eq_some_iff.mp h
  obtain ⟨r, hrun, hfinish⟩ := Option.bind_eq_some_iff.mp h
  refine Reader.finish_wellFormed ?_ hfinish
  exact Reader.run_induction Reader.WellFormed.apply hrun ⟨⟨nofun, nofun⟩, nofun⟩

end DocQuery.Pattern
