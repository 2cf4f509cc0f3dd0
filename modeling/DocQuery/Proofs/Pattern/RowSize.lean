import Mathlib
import DocQuery.Proofs.Pattern.Size

/-!
# The Size of Rows

How much of an automaton is shared depends on a table, so a lower bound counts only what is never
shared.  A set of characters that is read backward is a choice among its sequences of bytes, and
each of them takes a link, whatever states it leads to.

Patterns in a row are laid out as the row of their shapes, with neighbouring texts joined.  So the
bounds of a row, from above and from below, are those of its patterns put together, and a long row
of repetitions takes more than there is.

## Main definitions

- `Needs`: a lower bound for what a part of an automaton takes
- `Shape.IsSingle`: shapes that are no rows
- `Shape.Joined`: rows without neighbouring texts

## Main statements

- `needs_backwardSet`: what a set of characters needs
- `le_maxBytes_of_fits`: a pattern that fits has room for what its shape needs
- `Shape.ofPattern_concatAll`: the shape of patterns in a row
- `Shape.cost_inSequence_le`, `needs_inSequence`: what a row takes at most, and at least
-/

namespace DocQuery.Automaton

open DocQuery.Text

/-! ## Lower bounds -/

/-- A part of an automaton takes at least `c` bytes wherever it can be laid out, and does not go
beyond what an automaton may take. -/
def Needs {α : Type} (p : Plan α) (c : Nat) : Prop :=
  ∀ m a m', m.bytes ≤ maxBytes → p m = some (a, m') → m.bytes + c ≤ m'.bytes ∧ m'.bytes ≤ maxBytes

section Needs

variable {α β : Type} {p : Plan α} {f : α → Plan β} {b c : Nat}

theorem Needs.mono (hp : Needs p c) (h : b ≤ c) : Needs p b := by
  intro m a m' room hm
  obtain ⟨hgrown, hroom⟩ := hp m a m' room hm
  exact ⟨by omega, hroom⟩

theorem needs_pure (a : α) : Needs (pure a : Plan α) 0 := by
  rintro m _ _ room ⟨⟩
  exact ⟨Nat.le_refl _, room⟩

/-- One part and then another need what both of them need. -/
theorem Needs.bind (hp : Needs p b) (hf : ∀ a, Needs (f a) c) : Needs (p >>= f) (b + c) := by
  intro m d m'' room hm
  replace hm : (p m).bind (fun x => f x.1 x.2) = some (d, m'') := hm
  obtain ⟨⟨a, m'⟩, hfirst, hrest⟩ := Option.bind_eq_some_iff.mp hm
  obtain ⟨hgrown, room'⟩ := hp m a m' room hfirst
  obtain ⟨hgrown', room''⟩ := hf a m' d m'' room' hrest
  exact ⟨by omega, room''⟩

/-- Parts that are laid out one after the other need what all of them need. -/
theorem needs_foldlM {γ : Type} {f : α → γ → Plan α} (need : γ → Nat) (xs : List γ)
    (h : ∀ x ∈ xs, ∀ a, Needs (f a x) (need x)) (a : α) :
    Needs (xs.foldlM f a) (xs.map need).sum := by
  induction xs generalizing a with
  | nil => exact needs_pure a
  | cons x xs ih =>
    obtain ⟨hx, hxs⟩ := List.forall_mem_cons.mp h
    rw [List.foldlM_cons, List.map_cons, List.sum_cons]
    exact (hx a).bind fun a => ih hxs a

theorem claim_eq_some {m m' : Memory} {a : Unit} (h : claim m = some (a, m')) :
    m' = m ∧ m'.bytes ≤ maxBytes := by
  rw [claim] at h
  split at h
  · next room =>
    cases h
    exact ⟨rfl, room⟩
  · cases h

theorem needs_states (count : Nat) : Needs (states count) (32 * count) := by
  intro m a m' _ hm
  obtain ⟨rfl, room⟩ := claim_eq_some hm
  refine ⟨?_, room⟩
  simp only [Memory.bytes]
  omega

theorem needs_state (extra : Nat) : Needs (state extra) (32 + extra) := by
  intro m a m' _ hm
  rw [state] at hm
  obtain ⟨⟨_, after⟩, hclaim, hpair⟩ := Option.map_eq_some_iff.mp hm
  cases hpair
  obtain ⟨rfl, room⟩ := claim_eq_some hclaim
  refine ⟨?_, room⟩
  simp only [Memory.bytes]
  omega

theorem needs_branchOff (count : Nat) : Needs (branchOff count) (4 * count) := by
  intro m a m' _ hm
  obtain ⟨rfl, room⟩ := claim_eq_some hm
  refine ⟨?_, room⟩
  simp only [Memory.bytes]
  omega

theorem needs_link (e : Exit) : Needs (link e) 0 := by
  cases e with
  | plain => exact needs_pure ()
  | fork => exact (needs_branchOff 1).mono (Nat.zero_le _)

/-- A state that is shared may need nothing. -/
theorem needs_share (places : Nat) (words : List Nat) (extra : Nat) (shared : Shared) :
    Needs (share places words extra shared) 0 := by
  have hstate : ∀ {γ : Type} (g : Nat → γ), Needs (do return g (← state extra)) 0 := fun g =>
    ((needs_state extra).bind fun _ => needs_pure _).mono (Nat.zero_le _)
  unfold share
  dsimp only
  split
  · split
    · exact needs_pure _
    · exact hstate _
  · exact hstate _

theorem needs_backwardStates (target : Nat) (seq : List ByteRange) (shared : Shared) :
    Needs (backwardStates target seq shared) 0 := by
  have hneed := needs_foldlM (fun _ => 0) seq (fun range _ (state : Nat × Shared) =>
    needs_share 1000 [state.1, range.first, range.last] 0 state.2) (target, shared)
  exact hneed.mono (Nat.zero_le _)

/-- However much is shared, a set of characters that is read backward is a choice among all its
sequences of bytes. -/
theorem needs_backwardSet (set : CodePointSet) :
    Needs (backwardSet set) (64 + 4 * (sequences set).length) := by
  have hsum : ((sequences set).map fun _ => 4).sum = 4 * (sequences set).length := by
    simp [Nat.mul_comm]
  rw [← hsum]
  refine ((needs_state 0).bind fun _ => (needs_state 0).bind fun target =>
    (needs_foldlM (fun _ => 4) (sequences set) (fun seq _ shared => ?_) _).bind fun _ =>
      needs_pure ()).mono (by omega)
  exact ((needs_backwardStates target seq shared).bind fun _ =>
    (needs_branchOff 1).bind fun _ => needs_pure _).mono (by omega)

theorem needs_oneOf {set : CodePointSet} (hset : set.isAscii = false) :
    Needs (oneOf true set) (64 + 4 * (sequences set).length) := by
  unfold oneOf
  rw [hset]
  exact (needs_backwardSet set).bind fun _ => needs_pure _

section Parts

variable {p : Plan Exit}

/-- Parts one behind the other need what they need alone. -/
theorem needs_chain {ps : List (Plan Exit)} {cs : List Nat} (h : List.Forall₂ Needs ps cs) :
    Needs (chain ps) cs.sum := by
  induction h with
  | nil => exact ((needs_state 0).bind fun _ => needs_pure _).mono (Nat.zero_le _)
  | @cons p c ps cs hp hps ih =>
    cases hps with
    | nil => exact hp.mono (by simp)
    | cons hq hqs =>
      exact (hp.bind fun e => (needs_link e).bind fun _ => ih).mono (by simp)

/-- A part that is repeated without a bound is laid out, and a fork with it. -/
theorem needs_unbounded (hp : Needs p c) (neverEmpty : Bool) :
    Needs (unbounded p neverEmpty 0) (36 + c) := by
  cases neverEmpty with
  | true =>
    exact ((needs_state 0).bind fun _ => hp.bind fun e => (needs_branchOff 1).bind fun _ =>
      (needs_link e).bind fun _ => needs_pure _).mono (by omega)
  | false =>
    exact (hp.bind fun e => (needs_link e).bind fun _ => (needs_states 3).bind fun _ =>
      (needs_branchOff 4).bind fun _ => needs_pure _).mono (by omega)

end Parts

/-- A pattern that fits has room for what its shape needs. -/
theorem le_maxBytes_of_fits {p : Pattern} (hp : fits p = true)
    (hneed : Needs (layout true (Shape.ofPattern p)) c) : c ≤ maxBytes := by
  -- in front of the shape a match may begin anywhere, unless the shape is bound to an end
  have hframe : ∀ (bound : Prop) [Decidable bound],
      Needs (if bound then do states 1; let e ← layout true (Shape.ofPattern p); link e; states 1
        else do
          let _ ← state 8; states 1; let _ ← state 8
          let e ← layout true (Shape.ofPattern p); link e; states 1) c := by
    intro bound _
    have hend := hneed.bind fun e => (needs_link e).bind fun _ => needs_states 1
    split
    · exact ((needs_states 1).bind fun _ => hend).mono (by omega)
    · refine ((needs_state 8).bind fun _ => (needs_states 1).bind fun _ => (needs_state 8).bind
        fun _ => hend).mono ?_
      omega
  have hwhole : Needs (whole true (Shape.ofPattern p)) c := hframe _
  rw [fits, Bool.and_eq_true] at hp
  obtain ⟨⟨a, m⟩, hm⟩ := Option.isSome_iff_exists.mp hp.2
  obtain ⟨hgrown, room⟩ := hwhole {} a m (Nat.zero_le _) hm
  omega

end Needs

end DocQuery.Automaton

/-! ## Shapes in a row -/

namespace DocQuery.Shape

variable {s a : Shape} {ss xs ys : List Shape}

/-- The shape is no row of shapes. -/
def IsSingle (s : Shape) : Prop := ∀ ss, s ≠ sequence ss

theorem IsSingle.parts_eq (h : s.IsSingle) : s.parts = [s] := by
  cases s with
  | sequence ss => exact absurd rfl (h ss)
  | _ => rfl

/-- No shape in a row is empty, and no texts are neighbours. -/
def Joined (ss : List Shape) : Prop :=
  .empty ∉ ss ∧ ss.IsChain fun s t => s.text? = none ∨ t.text? = none

/-- Where neighbouring texts have been joined there is nothing left to join. -/
theorem joined_joinTexts (ss : List Shape) : Joined (joinTexts ss) := by
  fun_induction joinTexts ss with
  | case1 => exact ⟨List.not_mem_nil, .nil⟩
  | case2 ss ih => exact ih
  | case3 cs ss ds ts hrest ih =>
    -- what stands behind the longer text stood behind a text before
    obtain ⟨hempty, hchain⟩ := hrest ▸ ih
    refine ⟨by simpa using hempty, ?_⟩
    cases ts with
    | nil => exact .singleton _
    | cons t ts =>
      obtain ⟨hnext, hchain⟩ := List.isChain_cons_cons.mp hchain
      exact .cons_cons (.inr (hnext.resolve_left (Option.some_ne_none ds))) hchain
  | case4 cs ss hrest ih =>
    refine ⟨by simpa using ih.1, List.isChain_cons.mpr ⟨fun t ht => .inr ?_, ih.2⟩⟩
    cases t with
    | text ds =>
      obtain ⟨ts, hts⟩ := List.head?_eq_some_iff.mp ht
      exact absurd hts (hrest ds ts)
    | _ => rfl
  | case5 s ss hempty htext ih =>
    refine ⟨by simpa using ⟨Ne.symm hempty, ih.1⟩, List.isChain_cons.mpr ⟨fun t _ => .inl ?_, ih.2⟩⟩
    cases s with
    | text cs => exact absurd rfl (htext cs)
    | _ => rfl

theorem joinTexts_of_joined (h : Joined ss) : joinTexts ss = ss := by
  obtain ⟨hempty, hchain⟩ := h
  induction ss with
  | nil => rfl
  | cons s ss ih =>
    obtain ⟨hs, hss⟩ := not_or.mp (mt List.mem_cons.mpr hempty)
    obtain ⟨hnext, hchain⟩ := List.isChain_cons.mp hchain
    have hrest := ih hss hchain
    cases s with
    | empty => exact absurd rfl hs
    | text cs =>
      rw [joinTexts, hrest]
      split
      · next ds ts => simp [text?] at hnext
      · rfl
    | _ => rw [joinTexts, hrest] <;> simp

theorem joinTexts_joinTexts (ss : List Shape) : joinTexts (joinTexts ss) = joinTexts ss :=
  joinTexts_of_joined (joined_joinTexts ss)

/-- What a shape in front is joined with is the row behind it, as far as that is joined. -/
theorem joinTexts_cons_congr (a : Shape) (h : joinTexts xs = joinTexts ys) :
    joinTexts (a :: xs) = joinTexts (a :: ys) := by
  cases a <;> simp [joinTexts, h]

/-- What holds of all shapes of a row, and of a longer text if it holds of both parts, holds after
joining. -/
theorem forall_mem_joinTexts {Q : Shape → Prop}
    (htext : ∀ cs ds, Q (.text cs) → Q (.text ds) → Q (.text (cs ++ ds)))
    (h : ∀ s ∈ ss, Q s) : ∀ s ∈ joinTexts ss, Q s := by
  fun_induction joinTexts ss with
  | case1 => exact h
  | case2 ss ih => exact ih (List.forall_mem_cons.mp h).2
  | case3 cs ss ds ts hrest ih =>
    obtain ⟨hcs, hss⟩ := List.forall_mem_cons.mp h
    rw [hrest] at ih
    obtain ⟨hds, hts⟩ := List.forall_mem_cons.mp (ih hss)
    exact List.forall_mem_cons.mpr ⟨htext cs ds hcs hds, hts⟩
  | case4 cs ss hrest ih =>
    obtain ⟨hcs, hss⟩ := List.forall_mem_cons.mp h
    exact List.forall_mem_cons.mpr ⟨hcs, ih hss⟩
  | case5 s ss hempty htext ih =>
    obtain ⟨hs, hss⟩ := List.forall_mem_cons.mp h
    exact List.forall_mem_cons.mpr ⟨hs, ih hss⟩

/-- Joining leaves all shapes but texts as they are. -/
theorem filter_joinTexts {q : Shape → Bool} (htext : ∀ cs, q (.text cs) = false)
    (hempty : q .empty = false) (ss : List Shape) : (joinTexts ss).filter q = ss.filter q := by
  fun_induction joinTexts ss with
  | case1 => rfl
  | case2 ss ih => rw [ih, List.filter_cons_of_neg (by simp [hempty])]
  | case3 cs ss ds ts hrest ih =>
    rw [hrest, List.filter_cons_of_neg (by simp [htext])] at ih
    rw [List.filter_cons_of_neg (by simp [htext]), List.filter_cons_of_neg (by simp [htext]), ih]
  | case4 cs ss hrest ih =>
    rw [List.filter_cons_of_neg (by simp [htext]), List.filter_cons_of_neg (by simp [htext]), ih]
  | case5 s ss hempty htext ih => rw [List.filter_cons, List.filter_cons, ih]

theorem flatMap_parts (hss : ∀ s ∈ ss, s.IsSingle) : ss.flatMap parts = ss := by
  rw [List.flatMap_congr fun s hs => (hss s hs).parts_eq]
  exact List.flatMap_singleton' ss

/-- A row of two, the second of them a row, is one row. -/
theorem inSequence_pair (ha : a.IsSingle) (hss : ∀ s ∈ ss, s.IsSingle) :
    inSequence [a, inSequence ss] = inSequence (a :: ss) := by
  have hparts : joinTexts (inSequence ss).parts = joinTexts ss := by
    rw [inSequence, flatMap_parts hss]
    split
    · next hnil => exact hnil.symm
    · next s hone =>
      have hs : s.IsSingle := forall_mem_joinTexts (fun _ _ _ _ _ => nofun) hss s
        (hone ▸ List.mem_singleton_self s)
      rw [hs.parts_eq, ← hone, joinTexts_joinTexts, hone]
    · exact joinTexts_joinTexts ss
  have hrow : joinTexts ([a, inSequence ss].flatMap parts) =
      joinTexts ((a :: ss).flatMap parts) := by
    rw [List.flatMap_cons, List.flatMap_singleton, ha.parts_eq,
      flatMap_parts (List.forall_mem_cons.mpr ⟨ha, hss⟩)]
    exact joinTexts_cons_congr a hparts
  rw [inSequence, hrow]
  rfl

/-- The shape of patterns in a row is the row of their shapes. -/
theorem ofPattern_concatAll {ps : List Pattern} (h : ∀ p ∈ ps, (ofPattern p).IsSingle) :
    ofPattern (.concatAll ps) = inSequence (ps.map ofPattern) := by
  fun_induction Pattern.concatAll ps with
  | case1 => rfl
  | case2 p =>
    have hp := h p List.mem_cons_self
    rw [List.map_singleton, inSequence, List.flatMap_singleton, hp.parts_eq]
    cases hshape : ofPattern p with
    | sequence ss => exact absurd hshape (hp ss)
    | _ => rfl
  | case3 p ps hne ih =>
    obtain ⟨hp, hps⟩ := List.forall_mem_cons.mp h
    have hconcat : ofPattern (.concat p (.concatAll ps)) =
        inSequence [ofPattern p, ofPattern (.concatAll ps)] := rfl
    rw [hconcat, ih hps, inSequence_pair hp (List.forall_mem_map.mpr hps), List.map_cons]

/-! ## The size of a row -/

theorem costs_eq_map (ss : List Shape) : costs ss = ss.map cost := by
  induction ss with
  | nil => rfl
  | cons s ss ih => rw [costs, ih, List.map_cons]

/-- Texts that are joined take no more than they take alone. -/
theorem sum_cost_joinTexts_le (ss : List Shape) :
    ((joinTexts ss).map fun s => s.cost + 4).sum ≤ (ss.map fun s => s.cost + 4).sum := by
  fun_induction joinTexts ss with
  | case1 => exact Nat.le_refl _
  | case2 ss ih =>
    rw [List.map_cons, List.sum_cons]
    omega
  | case3 cs ss ds ts hrest ih =>
    have hcost : (text (cs ++ ds)).cost = (text cs).cost + (text ds).cost := by
      simp only [cost, List.flatMap_append, List.length_append, Nat.mul_add]
    rw [hrest] at ih
    simp only [List.map_cons, List.sum_cons] at ih ⊢
    omega
  | case4 cs ss hrest ih | case5 s ss hempty htext ih =>
    simp only [List.map_cons, List.sum_cons]
    omega

/-- A row takes what its shapes take, and the links between them. -/
theorem cost_inSequence_le (hss : ∀ s ∈ ss, s.IsSingle) :
    (inSequence ss).cost ≤ 32 + (ss.map fun s => s.cost + 4).sum := by
  have hle := sum_cost_joinTexts_le ss
  rw [inSequence, flatMap_parts hss]
  split
  · exact Nat.le_add_right _ _
  · next s hone =>
    rw [hone, List.map_singleton, List.sum_singleton] at hle
    omega
  · rw [cost, costs_eq_map, List.length_map]
    simp only [List.sum_map_add, List.map_const', List.sum_replicate, smul_eq_mul] at hle ⊢
    omega

end DocQuery.Shape

namespace DocQuery.Automaton

variable {ss : List Shape} {need : Shape → Nat} {q : Shape → Bool} {k : Nat}

theorem needs_layoutAll (h : ∀ s ∈ ss, Needs (layout true s) (need s)) :
    List.Forall₂ Needs (layoutAll true ss) (ss.map need) := by
  induction ss with
  | nil => exact .nil
  | cons s ss ih =>
    obtain ⟨hs, hss⟩ := List.forall_mem_cons.mp h
    exact .cons hs (ih hss)

/-- A row needs what its shapes need.  Here some of them need `k` bytes, and texts are not
counted. -/
theorem needs_inSequence (hss : ∀ s ∈ ss, s.IsSingle) (htext : ∀ cs, q (.text cs) = false)
    (hempty : q .empty = false)
    (h : ∀ s ∈ Shape.joinTexts ss, Needs (layout true s) (if q s then k else 0)) :
    Needs (layout true (.inSequence ss)) (ss.countP q * k) := by
  have hneed : ss.countP q * k =
      ((Shape.joinTexts ss).map fun s => if q s then k else 0).sum := by
    rw [List.sum_map_ite, List.map_const', List.sum_replicate, List.countP_eq_length_filter]
    simp [Shape.filter_joinTexts htext hempty]
  rw [hneed, Shape.inSequence, Shape.flatMap_parts hss]
  split
  · next hnil =>
    rw [hnil]
    exact needs_chain .nil
  · next s hone =>
    rw [hone] at h ⊢
    simpa using h
  · -- read backward, the parts stand in the other order
    have hparts := needs_chain (List.rel_reverse (needs_layoutAll h))
    rwa [List.sum_reverse] at hparts

end DocQuery.Automaton
