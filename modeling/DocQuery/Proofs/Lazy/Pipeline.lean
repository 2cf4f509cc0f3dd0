import Mathlib
import DocQuery.Lazy.Sequence

/-!
# Pipelines

A pipeline is a source and a row of stages behind it.  However many stages there are, an element
of the source is accepted or rejected by all of them together, and what a request for the next
element answers depends on the elements that it draws from the source alone: it goes on until one
is accepted, the source has no more, or eleven were rejected.

Requests are followed by the place in the source that each of them starts from.  A single pull is
shown to move on by one element, or to stay where the source has ended; everything else is about
places and elements only.

## Main definitions

- `Source`, `Pipeline`: where elements come from, and the stages that they go through
- `Pipeline.accept`: the stages as one function
- `Settles`, `Answers`: how far a request has to go, and what a row of requests answers
- `Stops`: where collecting the elements comes to its end

## Main statements

- `nextWithin_spec`, `takeNext_spec`: one request, and a row of them
- `collect_spec`: collecting the elements
- `Pipeline.requests_draw_fewest`: all of it for lists and generators
-/

namespace DocQuery.Lazy

variable {α β γ ε σ : Type}

/-! ## Sources and stages -/

/-- Where the elements of a pipeline come from. -/
inductive Source (α : Type) where
  | list (as : List α)
  /-- The elements `f 0`, `f 1`, …; once there is none, there are no more -/
  | generator (f : Nat → Option α) (ended : ∀ i, f i = none → f (i + 1) = none)

namespace Source

/-- The element at a place. -/
def element : Source α → Nat → Option α
  | list as, i => as[i]?
  | generator f _, i => f i

/-- What the sequence of a source keeps. -/
def State : Source α → Type
  | list _ => List α
  | generator _ _ => Nat

/-- The sequence of the elements. -/
def sequence : (source : Source α) → Sequence source.State α
  | list as => .ofList as
  | generator f _ => .generate f

/-- Once there is no element, there are no more. -/
theorem element_eq_none_of_le {source : Source α} {i j : Nat} (hnone : source.element i = none)
    (hle : i ≤ j) : source.element j = none := by
  cases source with
  | list as => exact List.getElem?_eq_none ((List.getElem?_eq_none_iff.mp hnone).trans hle)
  | generator f ended =>
    induction hle with
    | refl => exact hnone
    | step _ ih => exact ended _ ih

/-- The place that the sequence stands at.  A generator goes on counting when it has ended. -/
def StandsAt : (source : Source α) → source.State → Nat → Prop
  | list as, t, i => t = as.drop i
  | generator f _, t, i => i = t ∨ i < t ∧ f i = none

end Source

/-- Stages for elements of type `α`, the last one added outermost. -/
inductive Pipeline (α : Type) : Type → Type 1 where
  /-- No stage at all -/
  | source : Pipeline α α
  | filter {β : Type} (stages : Pipeline α β) (p : β → Bool) : Pipeline α β
  | map {β γ : Type} (stages : Pipeline α β) (f : β → Option γ) : Pipeline α γ
  | tryMap {β γ ε : Type} (stages : Pipeline α β) (f : β → Except ε γ) : Pipeline α γ

namespace Pipeline

/-- The sequence behind the stages. -/
def run (s : Sequence σ α) : {β : Type} → Pipeline α β → Sequence σ β
  | _, source => s
  | _, filter stages p => (stages.run s).filter p
  | _, map stages f => (stages.run s).filterMap f
  | _, tryMap stages f => (stages.run s).tryMap f

/-- What becomes of an element that goes through all stages, if none of them rejects it. -/
def accept : {β : Type} → Pipeline α β → α → Option β
  | _, source, a => some a
  | _, filter stages p, a => (stages.accept a).filter p
  | _, map stages f, a => (stages.accept a).bind f
  | _, tryMap stages f, a => (stages.accept a).bind fun b => (f b).toOption

/-- The stages are one stage that accepts what all of them accept. -/
theorem run_eq_filterMap (s : Sequence σ α) (stages : Pipeline α β) :
    stages.run s = s.filterMap stages.accept := by
  induction stages with
  | source =>
    have hpull : ∀ t, s.pull t = ((s.pull t).1.filterMap some, (s.pull t).2) := by
      intro t
      obtain ⟨step, u⟩ := s.pull t
      cases step <;> rfl
    show s = ⟨s.state, fun t => ((s.pull t).1.filterMap some, (s.pull t).2)⟩
    rw [← funext hpull]
  | filter stages p ih =>
    rw [run, ih, Sequence.filter, Sequence.filterMap_filterMap]
    congr 1
    funext a
    rw [accept, ← Option.bind_guard]
    rfl
  | map stages f ih =>
    rw [run, ih, Sequence.filterMap_filterMap]
    rfl
  | tryMap stages f ih =>
    rw [run, ih, Sequence.tryMap, Sequence.filterMap_filterMap]
    rfl

end Pipeline

/-! ## What is asked for -/

section Places

variable (element : Nat → Option α) (f : α → Option β)

/-- What is accepted of the `n` elements from `first` on. -/
def accepted (first n : Nat) : List β :=
  (List.range' first n).filterMap fun i => (element i).bind f

/-- A request that may draw up to `bound` elements needs no more than the `n` elements from
`first` on: the source has ended, it has drawn as many as it may, or one is accepted. -/
def Settles (bound first n : Nat) : Prop :=
  element (first + n) = none ∨ n = bound ∨ accepted element f first n ≠ []

/-- Requests that start from the element at `first`, one after the other, answer `answers` and
leave off at `last`.  Each of them draws the fewest elements that settle it, and answers with the
one that is accepted, if there is one. -/
inductive Answers : Nat → List (Option β) → Nat → Prop where
  | nil (first : Nat) : Answers first [] first
  | cons {first n last : Nat} {answer : Option β} {answers : List (Option β)}
      (hleast : IsLeast {n | Settles element f 11 first n} n)
      (hanswer : accepted element f first n = answer.toList)
      (hrest : Answers (first + n) answers last) : Answers first (answer :: answers) last

/-- The element at a place is rejected. -/
def Rejects (i : Nat) : Prop := ∃ a, element i = some a ∧ f a = none

/-- Among the elements from `first` on, collecting ends behind `n` of them: the source has ended
there, or the last eleven of them were rejected. -/
def Stops (first n : Nat) : Prop :=
  element (first + n) = none ∨ ∃ m, m + 11 = n ∧ ∀ i < 11, Rejects element f (first + m + i)

end Places

/-! ## One pull -/

section Pulling

variable {element : Nat → Option α} {f : α → Option β} {stands : σ → Nat → Prop}
  {s : Sequence σ β} {first n m last : Nat} {t : σ}

/-- Pulling gives the element where the sequence stands, and moves on by one unless there is
none. -/
structure Draws (element : Nat → Option α) (f : α → Option β) (stands : σ → Nat → Prop)
    (pull : σ → Step β × σ) : Prop where
  /-- An accepted element is emitted, a rejected one skipped -/
  outcome : ∀ {t i}, stands t i →
    (pull t).1 = ((element i).elim .ended fun a => (f a).elim .skip .emit)
  moves : ∀ {t i}, stands t i → stands (pull t).2 ((element i).elim i fun _ => i + 1)

theorem Source.draws (source : Source α) :
    Draws source.element some source.StandsAt source.sequence.pull := by
  cases source with
  | list as =>
    have hpull : ∀ i, (Sequence.ofList as).pull (as.drop i) =
        (as[i]?.elim (Step.ended, as.drop i) fun a => (.emit a, as.drop (i + 1))) := by
      intro i
      cases hget : as[i]? with
      | none =>
        rw [List.drop_eq_nil_of_le (List.getElem?_eq_none_iff.mp hget)]
        rfl
      | some a =>
        obtain ⟨hlt, rfl⟩ := List.getElem?_eq_some_iff.mp hget
        rw [List.drop_eq_getElem_cons hlt]
        rfl
    constructor
    · rintro _ i rfl
      show ((Sequence.ofList as).pull (as.drop i)).1 = as[i]?.elim _ _
      rw [hpull]
      cases as[i]? <;> rfl
    · rintro _ i rfl
      show ((Sequence.ofList as).pull (as.drop i)).2 = as.drop (as[i]?.elim _ _)
      rw [hpull]
      cases as[i]? <;> rfl
  | generator g ended =>
    -- where the generator has counted on, it still gives nothing
    have hsame : ∀ {t i : Nat}, i = t ∨ i < t ∧ g i = none → g t = g i := by
      rintro t i (rfl | ⟨hlt, hnone⟩)
      · rfl
      · have hlater : g t = none :=
          (Source.generator g ended).element_eq_none_of_le hnone hlt.le
        rw [hnone, hlater]
    constructor
    · intro (t : Nat) i hstands
      have hpull := hsame hstands
      show ((Sequence.generate g).pull t).1 = (g i).elim _ _
      cases hget : g i <;> simp [Sequence.generate, hpull, hget]
    · intro (t : Nat) i hstands
      show (g i).elim i (fun _ => i + 1) = t + 1 ∨
        (g i).elim i (fun _ => i + 1) < t + 1 ∧ g ((g i).elim i fun _ => i + 1) = none
      cases hget : g i with
      | none => exact .inr ⟨Nat.lt_succ_of_le (hstands.elim (·.le) (·.1.le)), hget⟩
      | some a =>
        rcases hstands with rfl | ⟨_, hnone⟩
        · exact .inl rfl
        · rw [hnone] at hget
          cases hget

/-- The stages decide on each element as one function. -/
theorem Draws.filterMap {s : Sequence σ α} (hdraws : Draws element some stands s.pull) :
    Draws element f stands (s.filterMap f).pull where
  outcome := by
    intro t i hstands
    show (s.pull t).1.filterMap f = _
    rw [hdraws.outcome hstands]
    cases element i with
    | none => rfl
    | some a => cases h : f a <;> simp [Step.filterMap, h]
  moves := fun hstands => hdraws.moves hstands

/-- The count of a sequence is the place where it stands. -/
theorem Draws.counting {s : Sequence σ α} (hdraws : Draws element some stands s.pull) :
    Draws element some (fun t i => t.1 = i ∧ stands t.2 i) s.counting.pull where
  outcome := fun hstands => hdraws.outcome hstands.2
  moves := by
    rintro ⟨i, t⟩ _ ⟨rfl, hstands⟩
    refine ⟨?_, hdraws.moves hstands⟩
    have houtcome := hdraws.outcome hstands
    cases hget : element i <;> simp [Sequence.counting, houtcome, hget]

/-! ## Requests -/

theorem accepted_zero (first : Nat) : accepted element f first 0 = [] := rfl

theorem accepted_succ (first n : Nat) :
    accepted element f first (n + 1) =
      ((element first).bind f).toList ++ accepted element f (first + 1) n := by
  rw [accepted, List.range'_succ, List.filterMap_cons]
  cases (element first).bind f <;> rfl

theorem accepted_append (first m n : Nat) :
    accepted element f first (m + n) =
      accepted element f first m ++ accepted element f (first + m) n := by
  rw [accepted, ← List.range'_append_1, List.filterMap_append]
  rfl

/-- A request that may draw up to `m` elements draws the fewest that settle it, and answers with
the one that is accepted. -/
theorem nextWithin_spec (hdraws : Draws element f stands s.pull) (m : Nat)
    (hstands : stands t first) :
    ∃ n u answer, Sequence.nextWithin m { s with state := t } = (answer, { s with state := u }) ∧
      stands u (first + n) ∧ IsLeast {n | Settles element f m first n} n ∧
      accepted element f first n = answer.toList := by
  -- on how many elements may still be drawn; each one that is rejected leaves one less
  induction m generalizing t first with
  | zero =>
    exact ⟨0, t, none, rfl, hstands, ⟨.inr (.inl rfl), fun n _ => Nat.zero_le n⟩, rfl⟩
  | succ m ih =>
    have houtcome := hdraws.outcome hstands
    have hmoves := hdraws.moves hstands
    rw [Sequence.nextWithin]
    cases hget : element first with
    | none =>
      rw [hget] at houtcome hmoves
      refine ⟨0, (s.pull t).2, none, ?_, hmoves, ⟨.inl hget, fun n _ => Nat.zero_le n⟩, rfl⟩
      simp only [houtcome, Option.elim_none]
    | some a =>
      rw [hget] at houtcome hmoves
      have hpositive : ∀ {n}, Settles element f (m + 1) first n → ∃ k, n = k + 1 := by
        rintro (_ | k) hsettles
        · rcases hsettles with hnone | hbound | haccepted
          · rw [Nat.add_zero, hget] at hnone
            cases hnone
          · cases hbound
          · exact absurd (accepted_zero first) haccepted
        · exact ⟨k, rfl⟩
      cases hf : f a with
      | some b =>
        have haccepted : accepted element f first 1 = [b] := by
          rw [accepted_succ, hget, Option.bind_some, hf]
          rfl
        refine ⟨1, (s.pull t).2, some b, ?_, hmoves, ⟨.inr (.inr ?_), ?_⟩, haccepted⟩
        · simp only [houtcome, Option.elim_some, hf]
        · rw [haccepted]
          exact List.cons_ne_nil b []
        · intro n hn
          obtain ⟨k, rfl⟩ := hpositive hn
          exact Nat.le_add_left 1 k
      | none =>
        obtain ⟨n, u, answer, hnext, hu, ⟨hsettles, hleast⟩, hanswer⟩ := ih hmoves
        have hskip : ∀ k, accepted element f first (k + 1) = accepted element f (first + 1) k := by
          intro k
          rw [accepted_succ, hget, Option.bind_some, hf]
          rfl
        have hshift : ∀ k, Settles element f (m + 1) first (k + 1) ↔
            Settles element f m (first + 1) k := by
          intro k
          unfold Settles
          rw [hskip, Nat.add_right_cancel_iff, Nat.add_assoc first 1 k, Nat.add_comm 1 k]
        refine ⟨n + 1, u, answer, ?_, ?_, ⟨(hshift n).mpr hsettles, ?_⟩, ?_⟩
        · simp only [houtcome, Option.elim_some, hf, Option.elim_none]
          exact hnext
        · rw [Nat.add_comm n 1, ← Nat.add_assoc]
          exact hu
        · intro j hj
          obtain ⟨k, rfl⟩ := hpositive hj
          exact Nat.succ_le_succ (hleast ((hshift k).mp hj))
        · rw [hskip]
          exact hanswer

/-- One request after the other goes on where the last one left off. -/
theorem takeNext_spec (hdraws : Draws element f stands s.pull) (k : Nat)
    (hstands : stands t first) :
    ∃ last u answers,
      Sequence.takeNext k { s with state := t } = (answers, { s with state := u }) ∧
        stands u last ∧ answers.length = k ∧ Answers element f first answers last := by
  induction k generalizing t first with
  | zero => exact ⟨first, t, [], rfl, hstands, rfl, .nil first⟩
  | succ k ih =>
    obtain ⟨n, u, answer, hnext, hu, hleast, hanswer⟩ := nextWithin_spec hdraws 11 hstands
    obtain ⟨last, v, answers, htake, hv, hlength, hrest⟩ := ih hu
    refine ⟨last, v, answer :: answers, ?_, hv, congrArg _ hlength, .cons hleast hanswer hrest⟩
    have hrequest : Sequence.next { s with state := t } = (answer, { s with state := u }) := hnext
    rw [Sequence.takeNext, hrequest]
    dsimp only
    rw [htake]

theorem Answers.reduceOption_eq {answers : List (Option β)}
    (h : Answers element f first answers last) :
    ∃ n, last = first + n ∧ answers.reduceOption = accepted element f first n := by
  induction h with
  | nil first => exact ⟨0, rfl, rfl⟩
  | @cons first n last answer answers _ hanswer _ ih =>
    obtain ⟨m, rfl, hrest⟩ := ih
    refine ⟨n + m, Nat.add_assoc .., ?_⟩
    rw [accepted_append, hanswer, ← hrest]
    cases answer <;> rfl

/-- What a row of requests answers, and where it leaves off, depends on the elements alone. -/
theorem Answers.unique {answers answers' : List (Option β)} {last' : Nat}
    (h : Answers element f first answers last) (h' : Answers element f first answers' last')
    (hlength : answers.length = answers'.length) : answers = answers' ∧ last = last' := by
  induction h generalizing answers' last' with
  | nil first =>
    obtain rfl : answers' = [] := List.length_eq_zero_iff.mp hlength.symm
    cases h'
    exact ⟨rfl, rfl⟩
  | @cons first n last answer answers hleast hanswer _ ih =>
    cases h' with
    | nil => cases hlength
    | @cons _ n' _ answer' _ hleast' hanswer' hrest' =>
      obtain rfl : n = n' := hleast.unique hleast'
      obtain rfl : answer = answer' := by
        rw [← Option.head?_toList (o := answer), ← hanswer, hanswer', Option.head?_toList]
      obtain ⟨rfl, rfl⟩ := ih hrest' (Nat.succ.inj hlength)
      exact ⟨rfl, rfl⟩

/-! ## Collecting -/

section Collecting

/-- Before a request is settled, all elements that it has drawn were rejected. -/
theorem accepted_of_lt (hleast : IsLeast {n | Settles element f 11 first n} n) (hlt : m < n) :
    accepted element f first m = [] := by
  by_contra haccepted
  exact absurd (hleast.2 (.inr (.inr haccepted))) (Nat.not_le.mpr hlt)

/-- A request that answers nothing has drawn rejected elements only. -/
theorem rejects_of_lt (hleast : IsLeast {n | Settles element f 11 first n} n)
    (hnone : accepted element f first n = []) (hlt : m < n) : Rejects element f (first + m) := by
  cases hget : element (first + m) with
  | none => exact absurd (hleast.2 (.inl hget)) (Nat.not_le.mpr hlt)
  | some a =>
    have hmem : first + m ∈ List.range' first n := List.mem_range'_1.mpr ⟨by omega, by omega⟩
    have hreject := List.filterMap_eq_nil_iff.mp hnone _ hmem
    rw [hget, Option.bind_some] at hreject
    exact ⟨a, hget, hreject⟩

/-- Collecting does not stop before the first request is settled. -/
theorem le_of_stops (hleast : IsLeast {n | Settles element f 11 first n} n)
    (hstops : Stops element f first m) : n ≤ m := by
  rcases hstops with hnone | ⟨k, rfl, -⟩
  · exact hleast.2 (.inl hnone)
  · -- a request draws no more than eleven elements
    exact (hleast.2 (.inr (.inl rfl))).trans (Nat.le_add_left 11 k)

/-- The element that settles a request by being accepted is the last one that it draws. -/
theorem not_rejects_last (hleast : IsLeast {n | Settles element f 11 first n} (m + 1))
    (haccepted : accepted element f first (m + 1) ≠ []) : ¬Rejects element f (first + m) := by
  rintro ⟨a, hget, hf⟩
  rw [accepted_append, accepted_of_lt hleast (Nat.lt_succ_self m), accepted_succ, hget,
    Option.bind_some, hf] at haccepted
  exact haccepted rfl

/-- Behind an accepted element collecting goes on as if it began there. -/
theorem stops_add_iff (hleast : IsLeast {n | Settles element f 11 first n} n)
    (haccepted : accepted element f first n ≠ []) :
    Stops element f first (n + m) ↔ Stops element f (first + n) m := by
  unfold Stops
  rw [← Nat.add_assoc]
  refine or_congr_right ⟨?_, ?_⟩
  · rintro ⟨k, hk, hrejects⟩
    -- all of the last eleven elements lie behind the accepted one
    have hbehind : n ≤ k := by
      by_contra hlt
      obtain ⟨j, rfl⟩ : ∃ j, n = j + 1 := ⟨n - 1, by omega⟩
      have hj := hrejects (j - k) (by omega)
      rw [show first + k + (j - k) = first + j by omega] at hj
      exact not_rejects_last hleast haccepted hj
    obtain ⟨j, rfl⟩ := Nat.exists_eq_add_of_le hbehind
    refine ⟨j, by omega, fun i hi => ?_⟩
    rw [Nat.add_assoc first n j]
    exact hrejects i hi
  · rintro ⟨k, hk, hrejects⟩
    refine ⟨n + k, by omega, fun i hi => ?_⟩
    rw [← Nat.add_assoc]
    exact hrejects i hi

/-- Collecting gives what is accepted of the elements that it draws, and draws the fewest that
give as many as are asked for or that it stops behind. -/
theorem collect_spec (hdraws : Draws element f stands s.pull) (limit : Nat)
    (hstands : stands t first) :
    ∃ n u, Sequence.collect limit { s with state := t } =
        (accepted element f first n, { s with state := u }) ∧ stands u (first + n) ∧
      IsLeast {n | (accepted element f first n).length = limit ∨ Stops element f first n} n := by
  -- on how many elements are still wanted; each request that finds one leaves one less
  induction limit generalizing t first with
  | zero => exact ⟨0, t, rfl, hstands, .inl rfl, fun n _ => Nat.zero_le n⟩
  | succ limit ih =>
    obtain ⟨n, u, answer, hnext, hu, hleast, hanswer⟩ := nextWithin_spec hdraws 11 hstands
    have hrequest : Sequence.next { s with state := t } = (answer, { s with state := u }) := hnext
    -- nothing is collected before the first request is settled
    have hbelow : ∀ {k}, (accepted element f first k).length = limit + 1 ∨ Stops element f first k →
        n ≤ k := by
      rintro k (hlength | hstops)
      · by_contra hlt
        rw [accepted_of_lt hleast (Nat.not_le.mp hlt)] at hlength
        cases hlength
      · exact le_of_stops hleast hstops
    rw [Sequence.collect, hrequest]
    cases answer with
    | none =>
      refine ⟨n, u, by rw [hanswer]; rfl, hu, .inr ?_, fun k hk => hbelow hk⟩
      rcases hleast.1 with hnone | rfl | haccepted
      · exact .inl hnone
      · refine .inr ⟨0, rfl, fun i hi => ?_⟩
        exact rejects_of_lt hleast hanswer hi
      · exact absurd hanswer haccepted
    | some b =>
      obtain ⟨m, v, hcollect, hv, hmember, hlower⟩ := ih hu
      have haccepted : accepted element f first n ≠ [] := by
        rw [hanswer]
        exact List.cons_ne_nil b []
      have hshift : ∀ k, (accepted element f first (n + k)).length = limit + 1 ∨
          Stops element f first (n + k) ↔
            (accepted element f (first + n) k).length = limit ∨ Stops element f (first + n) k := by
        intro k
        rw [stops_add_iff hleast haccepted, accepted_append, hanswer]
        simp
      refine ⟨n + m, v, ?_, ?_, (hshift m).mpr hmember, fun k hk => ?_⟩
      · dsimp only
        rw [hcollect, accepted_append, hanswer]
        rfl
      · rw [← Nat.add_assoc]
        exact hv
      · obtain ⟨j, rfl⟩ := Nat.exists_eq_add_of_le (hbelow hk)
        exact Nat.add_le_add_left (hlower ((hshift j).mp hk)) n

/-- Where collecting comes to its end, it does so unless it has as many elements as were asked
for. -/
theorem eq_of_stops {limit : Nat}
    (hleast : IsLeast {n | (accepted element f first n).length = limit ∨ Stops element f first n} n)
    (hstops : IsLeast {n | Stops element f first n} m)
    (hlimit : (accepted element f first m).length < limit) : n = m := by
  apply le_antisymm (hleast.2 (.inr hstops.1))
  rcases hleast.1 with hlength | hstop
  · by_contra hlt
    -- fewer elements would not give more that are accepted
    obtain ⟨k, rfl⟩ := Nat.exists_eq_add_of_le (Nat.not_le.mp hlt).le
    rw [accepted_append, List.length_append] at hlimit
    omega
  · exact hstops.2 hstop

end Collecting

end Pulling

/-! ## Pipelines -/

/-- The first request finds the first accepted element, if that is among the first eleven. -/
theorem Source.head?_accepted (source : Source α) {f : α → Option β} {n : Nat} {answer : Option β}
    (hleast : IsLeast {n | Settles source.element f 11 0 n} n)
    (hanswer : accepted source.element f 0 n = answer.toList) :
    answer = (accepted source.element f 0 11).head? := by
  have hle : n ≤ 11 := hleast.2 (.inr (.inl rfl))
  obtain ⟨m, hm⟩ := Nat.exists_eq_add_of_le hle
  rw [hm, accepted_append, hanswer]
  cases answer with
  | some b => rfl
  | none =>
    rcases hleast.1 with hnone | hbound | haccepted
    · -- behind the end of the source there is nothing to accept
      have hrest : accepted source.element f (0 + n) m = [] := by
        refine List.filterMap_eq_nil_iff.mpr fun i hi => ?_
        rw [source.element_eq_none_of_le hnone (List.mem_range'_1.mp hi).1]
        rfl
      rw [hrest]
      rfl
    · obtain rfl : m = 0 := by omega
      rfl
    · exact absurd hanswer haccepted

/-- Collecting the elements of a list comes to an end. -/
theorem exists_stops_list (as : List α) (f : α → Option β) :
    ∃ last ≤ as.length, IsLeast {n | Stops (Source.list as).element f 0 n} last := by
  have hend : Stops (Source.list as).element f 0 as.length := by
    left
    show as[0 + as.length]? = none
    rw [Nat.zero_add, List.getElem?_length]
  exact ⟨_, Nat.sInf_le hend, Nat.sInf_mem ⟨_, hend⟩, fun n hn => Nat.sInf_le hn⟩

namespace Pipeline

variable (source : Source α) (stages : Pipeline α β)

theorem draws_run :
    Draws source.element stages.accept source.StandsAt (stages.run source.sequence).pull ∧
      source.StandsAt (stages.run source.sequence).state 0 := by
  rw [run_eq_filterMap]
  refine ⟨source.draws.filterMap, ?_⟩
  cases source with
  | list as => rfl
  | generator f ended => exact .inl rfl

/-- The count of the elements that were drawn is the place in the source. -/
theorem draws_run_counting :
    Draws source.element stages.accept (fun t i => t.1 = i ∧ source.StandsAt t.2 i)
        (stages.run source.sequence.counting).pull ∧
      (stages.run source.sequence.counting).state = (0, (stages.run source.sequence).state) := by
  rw [run_eq_filterMap, run_eq_filterMap]
  exact ⟨source.draws.counting.filterMap, rfl⟩

/-- Requests answer the same whether the elements are counted or not. -/
theorem takeNext_run (k : Nat) :
    ((stages.run source.sequence).takeNext k).1.length = k ∧
      Answers source.element stages.accept 0 ((stages.run source.sequence).takeNext k).1
        ((stages.run source.sequence.counting).takeNext k).2.state.1 := by
  obtain ⟨hdraws, hstart⟩ := draws_run source stages
  obtain ⟨hcounts, hzero⟩ := draws_run_counting source stages
  obtain ⟨last, t, answers, htake, -, hlength, hanswers⟩ := takeNext_spec hdraws k hstart
  obtain ⟨last', u, answers', htake', ⟨hcount, -⟩, hlength', hanswers'⟩ :=
    takeNext_spec hcounts k (t := (0, _)) ⟨rfl, hstart⟩
  rw [← hzero] at htake'
  obtain ⟨rfl, rfl⟩ := hanswers.unique hanswers' (hlength.trans hlength'.symm)
  rw [htake, htake', hcount]
  exact ⟨hlength, hanswers⟩

theorem first_run :
    (stages.run source.sequence).first = (accepted source.element stages.accept 0 11).head? := by
  obtain ⟨hdraws, hstart⟩ := draws_run source stages
  obtain ⟨n, t, answer, hnext, -, hleast, hanswer⟩ := nextWithin_spec hdraws 11 hstart
  have hfirst : (stages.run source.sequence).first = answer := congrArg Prod.fst hnext
  rw [hfirst]
  exact source.head?_accepted hleast hanswer

theorem collect_run (limit : Nat) :
    ((stages.run source.sequence).collect limit).1 = accepted source.element stages.accept 0
        ((stages.run source.sequence.counting).collect limit).2.state.1 ∧
      IsLeast {n | (accepted source.element stages.accept 0 n).length = limit ∨
          Stops source.element stages.accept 0 n}
        ((stages.run source.sequence.counting).collect limit).2.state.1 := by
  obtain ⟨hdraws, hstart⟩ := draws_run source stages
  obtain ⟨hcounts, hzero⟩ := draws_run_counting source stages
  obtain ⟨n, t, hcollect, -, hleast⟩ := collect_spec hdraws limit hstart
  obtain ⟨m, u, hcollect', ⟨hcount, -⟩, hleast'⟩ :=
    collect_spec hcounts limit (t := (0, _)) ⟨rfl, hstart⟩
  rw [← hzero] at hcollect'
  obtain rfl : n = m := hleast.unique hleast'
  rw [hcollect, hcollect', hcount, Nat.zero_add]
  exact ⟨rfl, hleast⟩

/-- Whatever the stages of a pipeline are, each request draws the fewest elements of the source that
settle it, and the next one goes on behind them.  So `k` requests find what is accepted of the
elements that they draw, and the first one what is accepted first if that is among eleven elements.
Collecting gives what is accepted up to the end of the source, or up to the first eleven rejected
elements in a row; it draws no more than that, and for a list it always comes to this end. -/
theorem requests_draw_fewest (source : Source α) (stages : Pipeline α β) (k limit : Nat) :
    let s := stages.run source.sequence
    let counted := stages.run source.sequence.counting
    let drawn := (counted.takeNext k).2.state.1
    let collected := (counted.collect limit).2.state.1
    let accepted := accepted source.element stages.accept 0
    let stops := Stops source.element stages.accept 0
    ((s.takeNext k).1.length = k ∧
        Answers source.element stages.accept 0 (s.takeNext k).1 drawn ∧
        (s.takeNext k).1.reduceOption = accepted drawn) ∧
      s.first = (accepted 11).head? ∧
      ((s.collect limit).1 = accepted collected ∧
        IsLeast {n | (accepted n).length = limit ∨ stops n} collected) ∧
      (∀ last, IsLeast {n | stops n} last → (accepted last).length < limit →
        (s.collect limit).1 = accepted last ∧ collected = last) ∧
      ∀ as, source = .list as → ∃ last ≤ as.length, IsLeast {n | stops n} last := by
  intro s counted drawn collected accepted stops
  obtain ⟨hlength, hanswers⟩ := takeNext_run source stages k
  obtain ⟨n, hdrawn, hreduce⟩ := hanswers.reduceOption_eq
  obtain ⟨hcollect, hleast⟩ := collect_run source stages limit
  rw [Nat.zero_add] at hdrawn
  refine ⟨⟨hlength, hanswers, ?_⟩, first_run source stages, ⟨hcollect, hleast⟩, ?_, ?_⟩
  · rw [hreduce, ← hdrawn]
  · intro last hlast hlimit
    have heq : collected = last := eq_of_stops hleast hlast hlimit
    exact ⟨hcollect.trans (congrArg accepted heq), heq⟩
  · rintro as rfl
    exact exists_stops_list as stages.accept

/-- Eleven numbers are rejected, and the next request finds the one behind them. -/
example : (((Pipeline.source.filter fun n => n == 11).run (Sequence.range 0 20)).takeNext 2).1 =
    [none, some 11] := by decide

end Pipeline

end DocQuery.Lazy
