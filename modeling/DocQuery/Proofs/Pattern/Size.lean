import Mathlib
import DocQuery.Pattern.Automaton

/-!
# Bounds on the Size of Automata

How much memory an automaton takes depends on which states are shared, and so on a table that is
filled while it is laid out.  For a bound the table does not matter: a state that is found in it
takes nothing, and a state that is not takes what it would take without a table.

## Main definitions

- `Costs`: a bound on what a part of an automaton takes, wherever it is laid out
- `setCost`, `Shape.cost`: the bounds for a set of characters and for a shape

## Main statements

- `costs_oneOf`: what a set of characters takes
- `costs_layout`: what a shape takes
- `fits_of_cost`: a pattern fits if there is room for the bound of its shape
-/

namespace DocQuery.Automaton

open DocQuery.Text

/-- A part of an automaton can be laid out wherever there is room for `c` more bytes, and takes no
more than that. -/
def Costs {α : Type} (p : Plan α) (c : Nat) : Prop :=
  ∀ m : Memory, m.bytes + c ≤ maxBytes → ∃ a m', p m = some (a, m') ∧ m'.bytes ≤ m.bytes + c

section Plans

variable {α β : Type} {p : Plan α} {f : α → Plan β} {b c : Nat}

theorem Costs.mono (hp : Costs p b) (h : b ≤ c) : Costs p c := by
  intro m room
  obtain ⟨a, m', hm', hbytes⟩ := hp m (by omega)
  exact ⟨a, m', hm', by omega⟩

theorem costs_pure (a : α) : Costs (pure a : Plan α) 0 := fun m _ =>
  ⟨a, m, rfl, Nat.le_add_right _ _⟩

/-- One part and then another take what both of them take. -/
theorem Costs.bind (hp : Costs p b) (hf : ∀ a, Costs (f a) c) : Costs (p >>= f) (b + c) := by
  intro m room
  obtain ⟨a, m', hp, hbytes⟩ := hp m (by omega)
  obtain ⟨d, m'', hf, hbytes'⟩ := hf a m' (by omega)
  refine ⟨d, m'', ?_, by omega⟩
  show (p m).bind (fun x => f x.1 x.2) = _
  rw [hp]
  exact hf

/-- Parts that are laid out one after the other take what all of them take. -/
theorem costs_foldlM {γ : Type} {f : α → γ → Plan α} (cost : γ → Nat) (xs : List γ)
    (h : ∀ x ∈ xs, ∀ a, Costs (f a x) (cost x)) (a : α) :
    Costs (xs.foldlM f a) (xs.map cost).sum := by
  induction xs generalizing a with
  | nil => exact costs_pure a
  | cons x xs ih =>
    obtain ⟨hx, hxs⟩ := List.forall_mem_cons.mp h
    rw [List.foldlM_cons, List.map_cons, List.sum_cons]
    exact (hx a).bind fun a => ih hxs a

theorem costs_states (count : Nat) : Costs (states count) (32 * count) := by
  intro m room
  have hbytes : Memory.bytes { m with states := m.states + count } = m.bytes + 32 * count := by
    simp only [Memory.bytes]
    omega
  refine ⟨(), { m with states := m.states + count }, ?_, hbytes.le⟩
  rw [states, claim, if_pos (by rw [hbytes]; exact room)]

theorem costs_state (extra : Nat) : Costs (state extra) (32 + extra) := by
  intro m room
  have hbytes : Memory.bytes ⟨m.states + 1, m.extra + extra⟩ = m.bytes + (32 + extra) := by
    simp only [Memory.bytes]
    omega
  refine ⟨m.states, ⟨m.states + 1, m.extra + extra⟩, ?_, hbytes.le⟩
  rw [state, claim, if_pos (by rw [hbytes]; exact room)]
  rfl

theorem costs_branchOff (count : Nat) : Costs (branchOff count) (4 * count) := by
  intro m room
  have hbytes : Memory.bytes { m with extra := m.extra + 4 * count } = m.bytes + 4 * count := by
    simp only [Memory.bytes]
    omega
  refine ⟨(), { m with extra := m.extra + 4 * count }, ?_, hbytes.le⟩
  rw [branchOff, claim, if_pos (by rw [hbytes]; exact room)]

theorem costs_link (e : Exit) : Costs (link e) 4 := by
  cases e with
  | plain => exact fun m _ => ⟨(), m, rfl, Nat.le_add_right _ _⟩
  | fork => exact costs_branchOff 1

end Plans

/-! ## Sets of characters -/

/-- A state takes no more if it may be shared. -/
theorem costs_share (places : Nat) (words : List Nat) (extra : Nat) (shared : Shared) :
    Costs (share places words extra shared) (32 + extra) := by
  unfold share
  dsimp only
  split
  · split
    · exact (costs_pure _).mono (Nat.zero_le _)
    · exact (costs_state extra).bind fun _ => costs_pure _
  · exact (costs_state extra).bind fun _ => costs_pure _

theorem flatten_groupByFirst (seqs : List (List ByteRange)) : (groupByFirst seqs).flatten = seqs :=
  List.flatten_splitBy _ seqs

theorem ne_nil_of_mem_groupByFirst {seqs group : List (List ByteRange)}
    (h : group ∈ groupByFirst seqs) : group ≠ [] := List.ne_nil_of_mem_splitBy h

/-- Groups hold all sequences between them, each at least one. -/
theorem sum_length_groupByFirst (k : Nat) (seqs : List (List ByteRange)) :
    ((groupByFirst seqs).map fun group => k * group.length).sum = k * seqs.length := by
  rw [List.sum_map_mul_left, ← List.length_flatten, flatten_groupByFirst]

theorem length_groupByFirst_le (seqs : List (List ByteRange)) :
    (groupByFirst seqs).length ≤ seqs.length := by
  conv_rhs => rw [← flatten_groupByFirst seqs, List.length_flatten]
  have hone : ∀ group ∈ groupByFirst seqs, 1 ≤ group.length := fun group hgroup =>
    List.length_pos_iff.mpr (ne_nil_of_mem_groupByFirst hgroup)
  have hsum := List.card_nsmul_le_sum ((groupByFirst seqs).map List.length) 1
    (by simpa using hone)
  simpa using hsum

/-- The states that tell sequences of bytes apart: on each level at most one for each sequence, with
as many ranges. -/
theorem costs_forwardState (target depth : Nat) {seqs : List (List ByteRange)} (hne : seqs ≠ [])
    (shared : Shared) :
    Costs (forwardState target depth seqs shared) (40 * depth * seqs.length) := by
  -- on the depth; the groups of one level have all its sequences between them
  induction depth generalizing seqs shared with
  | zero => exact (costs_pure _).mono (Nat.zero_le _)
  | succ depth ih =>
    have hlength := length_groupByFirst_le seqs
    have hpos : 1 ≤ seqs.length := List.length_pos_iff.mpr hne
    rw [forwardState.eq_def]
    dsimp only
    split
    · exact (costs_pure _).mono (Nat.zero_le _)
    · refine ((costs_foldlM (fun group => 40 * depth * group.length) _
        (fun group hgroup state => ?_) _).bind fun state => costs_share 10000 _ _ _).mono ?_
      · have hgroup : group.map List.tail ≠ [] := by
          simpa using ne_nil_of_mem_groupByFirst hgroup
        have hcost := ih hgroup state.2
        rw [List.length_map] at hcost
        refine (hcost.bind fun next => ?_ : Costs _ (_ + 0))
        split
        · exact costs_pure _
        · exact costs_pure _
      · rw [sum_length_groupByFirst, Nat.mul_succ, Nat.add_mul]
        omega

/-- The states for one sequence of bytes, read backward. -/
theorem costs_backwardStates (target : Nat) (seq : List ByteRange) (shared : Shared) :
    Costs (backwardStates target seq shared) (32 * seq.length) := by
  have hcost := costs_foldlM (fun _ => 32) seq (fun range _ (state : Nat × Shared) =>
    costs_share 1000 [state.1, range.first, range.last] 0 state.2) (target, shared)
  have hsum : (seq.map fun _ => 32).sum = 32 * seq.length := by
    simp [Nat.mul_comm]
  rwa [hsum] at hcost

/-- The sequences of bytes for the characters of a set. -/
def sequences (set : CodePointSet) : List (List ByteRange) :=
  set.ranges.flatMap fun r => byteSequences r.1 r.2

/-- A bound on what a set of characters takes, in either direction. -/
def setCost (set : CodePointSet) : Nat :=
  264 + 8 * set.ranges.length + 200 * (sequences set).length +
    ((sequences set).map fun seq => 32 * seq.length + 4).sum

theorem costs_forwardSet (set : CodePointSet) : Costs (forwardSet set) (setCost set) := by
  have hcost : ∀ target, Costs (forwardState target 5 (sequences set) {})
      (32 + 200 * (sequences set).length) := by
    intro target
    by_cases hne : sequences set = []
    · -- nothing leads on from the only state
      rw [hne]
      exact (costs_pure _).bind fun _ => costs_share 10000 [] 0 _
    · exact (costs_forwardState target 5 hne {}).mono (by omega)
  refine ((costs_state 0).bind fun target => (hcost target).bind fun _ => costs_pure ()).mono ?_
  rw [setCost]
  omega

theorem costs_backwardSet (set : CodePointSet) : Costs (backwardSet set) (setCost set) := by
  refine ((costs_state 0).bind fun _ => (costs_state 0).bind fun target =>
    (costs_foldlM (fun seq => 32 * seq.length + 4) (sequences set)
      (fun seq _ shared => ?_) _).bind fun _ => costs_pure ()).mono ?_
  · exact (costs_backwardStates target seq shared).bind fun _ =>
      (costs_branchOff 1).bind fun _ => costs_pure _
  · rw [setCost]
    omega

/-- A set of characters takes no more than its bound. -/
theorem costs_oneOf (backward : Bool) (set : CodePointSet) :
    Costs (oneOf backward set) (setCost set) := by
  unfold oneOf
  split
  · refine ((costs_state 0).bind fun _ => (costs_state _).bind fun _ => costs_pure _).mono ?_
    rw [setCost]
    omega
  · split
    · exact (costs_backwardSet set).bind fun _ => costs_pure _
    · exact (costs_forwardSet set).bind fun _ => costs_pure _

/-! ## Parts in a row -/

section Parts

variable {p : Plan Exit} {c : Nat}

/-- Parts one behind the other take what they take alone, and the links between them. -/
theorem costs_chain {ps : List (Plan Exit)} {cs : List Nat} (h : List.Forall₂ Costs ps cs) :
    Costs (chain ps) (32 + cs.sum + 4 * cs.length) := by
  induction h with
  | nil => exact (costs_state 0).bind fun _ => costs_pure _
  | @cons p c ps cs hp hps ih =>
    cases hps with
    | nil =>
      -- the last part has no link behind it
      exact hp.mono (by simp only [List.sum_singleton, List.length_singleton]; omega)
    | cons hq hqs =>
      refine (hp.bind fun e => (costs_link e).bind fun _ => ih).mono ?_
      simp only [List.sum_cons, List.length_cons]
      omega

/-- Branches take what they take alone, and the links behind them. -/
theorem costs_branches {ps : List (Plan Exit)} {cs : List Nat} (h : List.Forall₂ Costs ps cs) :
    Costs (ps.forM fun p => do let e ← p; link e) (cs.sum + 4 * cs.length) := by
  induction h with
  | nil => exact costs_pure _
  | @cons p c ps cs hp hps ih =>
    refine ((hp.bind fun e => costs_link e).bind fun _ => ih).mono ?_
    simp only [List.sum_cons, List.length_cons]
    omega

/-- A choice takes what its branches take, and two states that are linked to all of them. -/
theorem costs_choice {ps : List (Plan Exit)} {cs : List Nat} (h : List.Forall₂ Costs ps cs) :
    Costs (choice ps) (64 + cs.sum + 8 * cs.length) := by
  refine ((costs_branches (List.forall₂_take 2 h)).bind fun _ => (costs_states 2).bind fun _ =>
    (costs_branches (List.forall₂_drop 2 h)).bind fun _ => (costs_branchOff _).bind fun _ =>
      costs_pure _).mono ?_
  have hsum := List.sum_take_add_sum_drop cs 2
  have hlength := h.length_eq
  rw [List.length_take, List.length_drop]
  omega

/-- The plan for one more copy. -/
theorem copiesBehind_succ (p : Plan Exit) (count : Nat) (e : Exit) :
    (copiesBehind p (count + 1) e : Plan Exit) =
      link e >>= fun _ => p >>= copiesBehind p count := by
  -- the same steps, which the definition matches on and does not bind
  funext m
  show copiesBehind p (count + 1) e m =
    (link e m).bind fun x => (p x.2).bind fun y => copiesBehind p count y.1 y.2
  rw [copiesBehind]
  rcases link e m with _ | ⟨_, m⟩
  · rfl
  · rcases hp : p m with _ | ⟨e, m⟩ <;> simp [hp]

theorem costs_copiesBehind (hp : Costs p c) (count : Nat) (e : Exit) :
    Costs (copiesBehind p count e : Plan Exit) (count * (c + 4)) := by
  induction count generalizing e with
  | zero => exact fun m _ => ⟨e, m, rfl, Nat.le_add_right _ _⟩
  | succ count ih =>
    rw [copiesBehind_succ]
    refine ((costs_link e).bind fun _ => hp.bind fun e => ih e).mono ?_
    rw [Nat.add_mul]
    omega

/-- A part that is laid out several times takes that many times as much. -/
theorem costs_copies (hp : Costs p c) (count : Nat) :
    Costs (copies p count) (32 + count * (c + 4)) := by
  cases count with
  | zero => exact (costs_state 0).bind fun _ => (costs_pure _).mono (Nat.zero_le _)
  | succ count =>
    have hplan : copies p (count + 1) = p >>= copiesBehind p count := by
      funext m
      show copies p (count + 1) m = (p m).bind fun y => copiesBehind p count y.1 y.2
      rw [copies]
      rcases hm : p m with _ | ⟨e, m⟩ <;> simp [hm]
    rw [hplan]
    refine (hp.bind fun e => costs_copiesBehind hp count e).mono ?_
    rw [Nat.add_mul]
    omega

/-- The plan for one more part that may be left out. -/
theorem optionsBehind_succ (p : Plan Exit) (count : Nat) (e : Exit) :
    (optionsBehind p (count + 1) e : Plan Exit) =
      (do let _ ← state 0; link e; branchOff 2 : Plan Unit) >>= fun _ =>
        p >>= optionsBehind p count := by
  funext m
  show optionsBehind p (count + 1) e m =
    ((do let _ ← state 0; link e; branchOff 2 : Plan Unit) m).bind fun x =>
      (p x.2).bind fun y => optionsBehind p count y.1 y.2
  rw [optionsBehind]
  rcases (do let _ ← state 0; link e; branchOff 2 : Plan Unit) m with _ | ⟨_, m⟩
  · rfl
  · rcases hp : p m with _ | ⟨e, m⟩ <;> simp [hp]

theorem costs_optionsBehind (hp : Costs p c) (count : Nat) (e : Exit) :
    Costs (optionsBehind p count e : Plan Exit) (count * (c + 44)) := by
  induction count generalizing e with
  | zero => exact fun m _ => ⟨e, m, rfl, Nat.le_add_right _ _⟩
  | succ count ih =>
    have hfork : Costs (do let _ ← state 0; link e; branchOff 2 : Plan Unit) 44 :=
      (costs_state 0).bind fun _ => (costs_link e).bind fun _ => costs_branchOff 2
    rw [optionsBehind_succ]
    refine (hfork.bind fun _ => hp.bind fun e => ih e).mono ?_
    rw [Nat.add_mul]
    omega

theorem costs_unbounded (hp : Costs p c) (neverEmpty : Bool) (least : Nat) :
    Costs (unbounded p neverEmpty least) (160 + (least + 1) * (c + 44)) := by
  cases least with
  | zero =>
    cases neverEmpty with
    | true =>
      refine ((costs_state 0).bind fun _ => hp.bind fun e => (costs_branchOff 1).bind fun _ =>
        (costs_link e).bind fun _ => costs_pure _).mono ?_
      omega
    | false =>
      refine (hp.bind fun e => (costs_link e).bind fun _ => (costs_states 3).bind fun _ =>
        (costs_branchOff 4).bind fun _ => costs_pure _).mono ?_
      omega
  | succ least =>
    refine ((costs_copies hp (least + 1)).bind fun e => (costs_link e).bind fun _ =>
      (costs_state 0).bind fun _ => (costs_branchOff 1).bind fun _ => costs_pure _).mono ?_
    simp only [Nat.add_mul, Nat.mul_add]
    omega

theorem costs_bounded (hp : Costs p c) {least most : Nat} (hle : least ≤ most) :
    Costs (bounded p least most) (160 + most * (c + 44)) := by
  obtain ⟨more, rfl⟩ := Nat.exists_eq_add_of_le hle
  refine ((costs_copies hp least).bind fun e => (costs_state 0).bind fun _ =>
    (costs_optionsBehind hp _ e).bind fun e => (costs_link e).bind fun _ => costs_pure _).mono ?_
  rw [Nat.add_sub_cancel_left]
  simp only [Nat.add_mul, Nat.mul_add]
  omega

/-- A repetition takes no more than its part takes in all rounds that are written out. -/
theorem costs_repetition (hp : Costs p c) (neverEmpty : Bool) {least : Nat} {most : Option Nat}
    (hle : ∀ m ∈ most, least ≤ m) :
    Costs (repetition p neverEmpty least most) (160 + (most.getD (least + 1)) * (c + 44)) := by
  unfold repetition
  split
  · exact costs_unbounded hp neverEmpty least
  · next most =>
    have hle : least ≤ most := hle most rfl
    rw [Option.getD_some]
    split
    · next hoptional =>
      refine ((costs_states 1).bind fun _ => (costs_branchOff 2).bind fun _ => hp.bind fun e =>
        (costs_link e).bind fun _ => (costs_states 1).bind fun _ => costs_pure _).mono ?_
      rw [hoptional.2]
      omega
    · split
      · next heq =>
        subst heq
        refine (costs_copies hp least).mono ?_
        simp only [Nat.mul_add]
        omega
      · exact costs_bounded hp hle

end Parts

end DocQuery.Automaton

/-! ## Shapes -/

namespace DocQuery.Shape

open DocQuery.Text

mutual

/-- A bound on what a shape takes, in either direction.  For a repetition that asks for more rounds
than it allows, and for a choice among texts, it is more than there is. -/
def cost : Shape → Nat
  | empty | assertion _ => 32
  | text cs => 32 * (cs.flatMap bytesOf).length
  | one set => Automaton.setCost set
  | group _ s => cost s + 68
  | repetition s least most _ =>
    if most.all (least ≤ ·) then 160 + most.getD (least + 1) * (cost s + 44)
    else Automaton.maxBytes + 1
  | sequence ss => 32 + (costs ss).sum + 4 * (costs ss).length
  | choice ss =>
    if (ss.mapM text?).isSome then Automaton.maxBytes + 1
    else 64 + (costs ss).sum + 8 * (costs ss).length

/-- The bounds for several shapes. -/
def costs : List Shape → List Nat
  | [] => []
  | s :: ss => cost s :: costs ss

end

end DocQuery.Shape

namespace DocQuery.Automaton

open DocQuery.Text

section Shapes

variable {c : Nat}

/-- What takes more than there is has no place to be laid out. -/
theorem costs_of_lt {α : Type} {p : Plan α} (h : maxBytes < c) : Costs p c :=
  fun m room => absurd h (by omega)

/-- A group takes two states more than what it holds, where it takes any. -/
theorem costs_group {backward : Bool} {s : Shape} (number : Nat)
    (hs : Costs (layout backward s) c) : Costs (layout backward (.group number s)) (c + 68) := by
  rw [layout]
  split
  · exact hs.mono (Nat.le_add_right _ _)
  · refine ((costs_states 1).bind fun _ => hs.bind fun e => (costs_link e).bind fun _ =>
      (costs_states 1).bind fun _ => costs_pure _).mono ?_
    omega

mutual

/-- A shape takes no more than its bound, in either direction. -/
theorem costs_layout (backward : Bool) : ∀ s : Shape, Costs (layout backward s) s.cost
  | .empty | .assertion _ => (costs_state 0).bind fun _ => costs_pure _
  | .text cs => by
    have hlength : (bytesOfText backward cs).length = (cs.flatMap bytesOf).length := by
      cases backward with
      | true => exact List.length_reverse
      | false => rfl
    rw [layout, Shape.cost, ← hlength]
    exact (costs_states _).bind fun _ => costs_pure _
  | .one set => costs_oneOf backward set
  | .group number s => costs_group number (costs_layout backward s)
  | .repetition s least most _ => by
    rw [layout, Shape.cost]
    split
    · next hle =>
      exact costs_repetition (costs_layout backward s) _ (by simpa [Option.all_eq_true] using hle)
    · exact costs_of_lt (Nat.lt_succ_self _)
  | .sequence ss => by
    have hparts := costs_layoutAll backward ss
    rw [layout, Shape.cost]
    cases backward with
    | true =>
      -- read backward, the parts stand in the other order
      have hcost := costs_chain (List.rel_reverse hparts)
      rwa [List.sum_reverse, List.length_reverse] at hcost
    | false => exact costs_chain hparts
  | .choice ss => by
    rw [layout, Shape.cost]
    split
    · next htexts =>
      rw [htexts]
      exact costs_of_lt (Nat.lt_succ_self _)
    · next htexts =>
      rw [htexts]
      exact costs_choice (costs_layoutAll backward ss)

theorem costs_layoutAll (backward : Bool) :
    ∀ ss : List Shape, List.Forall₂ Costs (layoutAll backward ss) (Shape.costs ss)
  | [] => .nil
  | s :: ss => .cons (costs_layout backward s) (costs_layoutAll backward ss)

end

/-- What stands around a shape takes little. -/
theorem costs_whole (backward : Bool) (s : Shape) : Costs (whole backward s) (216 + s.cost) := by
  -- in front of the shape a match may begin anywhere, unless the shape is bound to an end
  have hframe : ∀ (bound : Prop) [Decidable bound] {p : Plan Exit}, Costs p (s.cost + 68) →
      Costs (if bound then do states 1; let e ← p; link e; states 1
        else do let _ ← state 8; states 1; let _ ← state 8; let e ← p; link e; states 1)
        (216 + s.cost) := by
    intro bound _ p hp
    have hend := hp.bind fun e => (costs_link e).bind fun _ => costs_states 1
    split
    · exact ((costs_states 1).bind fun _ => hend).mono (by omega)
    · refine ((costs_state 8).bind fun _ => (costs_states 1).bind fun _ => (costs_state 8).bind
        fun _ => hend).mono ?_
      omega
  cases backward with
  | true => exact hframe _ ((costs_layout true s).mono (Nat.le_add_right _ _))
  | false => exact hframe _ (costs_group 0 (costs_layout false s))

/-- A pattern fits if there is room for the bound of its shape. -/
theorem fits_of_cost {p : Pattern} (hroom : 216 + (Shape.ofPattern p).cost ≤ maxBytes) :
    fits p = true := by
  have hwhole : ∀ backward, (whole backward (Shape.ofPattern p) {}).isSome = true := by
    intro backward
    -- the memory is empty at first
    obtain ⟨a, m, hm, -⟩ := costs_whole backward (Shape.ofPattern p) {} (by simpa [Memory.bytes])
    rw [hm]
    rfl
  rw [fits]
  simp [hwhole]

end Shapes

end DocQuery.Automaton
