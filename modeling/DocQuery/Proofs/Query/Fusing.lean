import Mathlib
import DocQuery.Proofs.Edit.Target
import DocQuery.Proofs.Path.Row
import DocQuery.Proofs.Query.Composition

/-!
# Cutting a Row of Names

A star further along a path makes the splitter cut a row of names into several segments.  Each
segment drops walks that end where they started, so a cut adds such a test in the middle of a walk.
In an acyclic store the test never drops anything: a walk along one name at least goes down, and
what is found in the middle of a walk is never where it started.

So it does not matter where a row of names is cut.  The cut can change which of several errors is
reported, because the first half is walked from all values before the second half begins; whether
there is one it does not change.

## Main statements

- `navigate_append`: the hit of a walk along two rows of names
- `toOption_applyAll_append_names`: two rows of names in one segment or in two
- `plain_append`: the same as an equivalence, and for whole paths
-/

namespace DocQuery.Store

open DocQuery.Path

variable {s : Store} {v : Value} {names more : List String} {vs : List Value}
  {segments : List Segment}

/-! ## Errors left out -/

theorem toOption_bind {α β : Type} (x : Except QueryError α) (f : α → Except QueryError β) :
    (x >>= f).toOption = x.toOption.bind fun a => (f a).toOption := by
  cases x <;> rfl

theorem toOption_eq_some_iff {α : Type} {x : Except QueryError α} {a : α} :
    x.toOption = some a ↔ x = .ok a := by
  cases x <;> simp [Except.toOption]

theorem toOption_eq_none_iff {α : Type} {x : Except QueryError α} :
    x.toOption = none ↔ ∃ e, x = .error e := by
  cases x <;> simp [Except.toOption]

/-! ## One walk -/

/-- A walk from a value that is no container has no hit. -/
theorem walk_of_not_container (hv : v.isContainer = false) (hne : names ≠ []) :
    s.walk v names = .ok none := by
  obtain ⟨name, names, rfl⟩ := List.exists_cons_of_ne_nil hne
  rw [walk, stepName_of_not_container hv]
  rfl

/-- In an acyclic store the end of a walk is always a hit. -/
theorem navigate_eq_walk (hacyclic : ∀ h, s.AcyclicFrom h) (hne : names ≠ []) (v : Value) :
    s.navigate names v = s.walk v names := by
  rw [navigate]
  cases hwalk : s.walk v names with
  | error e => rfl
  | ok hit =>
    cases hit with
    | none => rfl
    | some w =>
      cases v with
      | container root =>
        have hroot := not_same_of_walk (hacyclic root) hne hwalk
        simp only [bind, Except.bind, pure, Except.pure, Option.filter_some, hroot, Bool.not_false,
          if_true]
      | _ => rw [walk_of_not_container rfl hne] at hwalk; cases hwalk

/-- The hit of a walk along two rows of names is the hit of a walk along the second from the hit of
the walk along the first. -/
theorem navigate_append (hacyclic : ∀ h, s.AcyclicFrom h) (hnames : names ≠ []) (hmore : more ≠ [])
    (v : Value) :
    s.navigate (names ++ more) v = (do
      match ← s.navigate names v with
      | some w => s.navigate more w
      | none => return none) := by
  have happend : names ++ more ≠ [] := List.append_ne_nil_of_left_ne_nil hnames more
  simp only [navigate_eq_walk hacyclic happend, navigate_eq_walk hacyclic hnames,
    navigate_eq_walk hacyclic hmore]
  exact walk_append_names s v names more

/-! ## Segments of names -/

theorem apply_plain_append (hacyclic : ∀ h, s.AcyclicFrom h) (hnames : names ≠ [])
    (hmore : more ≠ []) (v : Value) :
    s.apply (.plain (names ++ more)) v =
      s.apply (.plain names) v >>= s.applyAll (.plain more) := by
  simp only [apply, navigate_append hacyclic hnames hmore]
  cases s.navigate names v with
  | error e => rfl
  | ok hit =>
    cases hit with
    | none => rfl
    | some w => exact (applyAll_singleton s (.plain more) w).symm

/-- Two rows of names find the same in one segment as in two, or fail in both cases. -/
theorem toOption_applyAll_append_names (hacyclic : ∀ h, s.AcyclicFrom h) (hnames : names ≠ [])
    (hmore : more ≠ []) (vs : List Value) :
    (s.applyAll (.plain (names ++ more)) vs).toOption =
      (s.applyAll (.plain names) vs >>= s.applyAll (.plain more)).toOption := by
  induction vs with
  | nil => rfl
  | cons v vs ih =>
    -- what the first half finds from the first value and from the others is searched together
    rw [toOption_bind] at ih ⊢
    rw [← List.singleton_append, toOption_applyAll_append, toOption_applyAll_append,
      applyAll_singleton, applyAll_singleton, apply_plain_append hacyclic hnames hmore,
      toOption_bind, ih]
    cases (s.apply (.plain names) v).toOption with
    | none => rfl
    | some found =>
      cases (s.applyAll (.plain names) vs).toOption with
      | none => exact Option.bind_fun_none _
      | some others => exact (toOption_applyAll_append s (.plain more) found others).symm

/-! ## Rows of segments -/

/-- A row of names in one segment finds the same as with a segment for each name. -/
theorem toOption_runSegments_singles (hacyclic : ∀ h, s.AcyclicFrom h) (hnames : names ≠ [])
    (segments : List Segment) (vs : List Value) :
    (s.runSegments ((names.map fun n => .plain [n]) ++ segments) vs).toOption =
      (s.runSegments (.plain names :: segments) vs).toOption := by
  have hknown : ∀ names : List String, ∀ fragment, .plain names ≠ Segment.unrecognized fragment :=
    fun _ _ => nofun
  induction names generalizing vs with
  | nil => exact absurd rfl hnames
  | cons name names ih =>
    rw [List.map_cons, List.cons_append, runSegments_cons (hknown [name]), toOption_bind]
    by_cases hrest : names = []
    · subst hrest
      rw [runSegments_cons (hknown [name]), toOption_bind]
      rfl
    · have htail : ∀ found, (s.runSegments ((names.map fun n => .plain [n]) ++ segments)
          found).toOption = (s.applyAll (.plain names) found).toOption.bind
            fun next => (s.runSegments segments next).toOption := fun found => by
        rw [ih hrest found, runSegments_cons (hknown names), toOption_bind]
      have hcut := toOption_applyAll_append_names hacyclic (List.cons_ne_nil name []) hrest vs
      rw [List.singleton_append, toOption_bind] at hcut
      rw [runSegments_cons (hknown (name :: names)), toOption_bind, hcut, Option.bind_assoc]
      exact congrArg _ (funext htail)

/-- It does not matter how the names of a row of segments are cut. -/
theorem toOption_runSegments_flatMap_singles (hacyclic : ∀ h, s.AcyclicFrom h)
    (hplain : .plain [] ∉ segments) (vs : List Value) :
    (s.runSegments (segments.flatMap Segment.singles) vs).toOption =
      (s.runSegments segments vs).toOption := by
  induction segments generalizing vs with
  | nil => rfl
  | cons first segments ih =>
    have hsegments : .plain [] ∉ segments := fun hmem => hplain (List.mem_cons_of_mem first hmem)
    -- the first segment is run, and the others find the same from what it has found
    have hbehind : ∀ {t : Segment}, (∀ fragment, t ≠ .unrecognized fragment) → ∀ vs,
        (s.runSegments (t :: segments.flatMap Segment.singles) vs).toOption =
          (s.runSegments (t :: segments) vs).toOption := by
      intro t ht vs
      rw [runSegments_cons ht, runSegments_cons ht, toOption_bind, toOption_bind]
      exact congrArg _ (funext fun found => ih hsegments found)
    rw [List.flatMap_cons]
    cases first with
    | plain names =>
      have hnames : names ≠ [] := by
        rintro rfl
        exact hplain List.mem_cons_self
      rw [Segment.singles, toOption_runSegments_singles hacyclic hnames]
      exact hbehind (by simp) vs
    | unrecognized fragment => rfl
    | glob pattern => exact hbehind (by simp) vs
    | filter expression => exact hbehind (by simp) vs
    | descendant names => exact hbehind (by simp) vs
    | array selector => exact hbehind (by simp) vs

/-- In an acyclic store two rows of names find the same in one segment as in two, or fail in both
cases.  So a path finds from a container what its segments find with each name in a segment of its
own, however the splitter has cut the names. -/
theorem plain_append (hacyclic : ∀ h, s.AcyclicFrom h) :
    (∀ names more vs, names ≠ [] → more ≠ [] →
      (∀ found, s.applyAll (.plain (names ++ more)) vs = .ok found ↔
        ∃ middle, s.applyAll (.plain names) vs = .ok middle ∧
          s.applyAll (.plain more) middle = .ok found) ∧
      ((∃ e, s.applyAll (.plain (names ++ more)) vs = .error e) ↔
        ∃ e, s.applyAll (.plain names) vs >>= s.applyAll (.plain more) = .error e)) ∧
    ∀ root path, root.isContainer = true →
      (s.find root path).toOption =
        (s.runSegments ((parse path).flatMap Segment.singles) [root]).toOption := by
  constructor
  · intro names more vs hnames hmore
    have hcut := toOption_applyAll_append_names hacyclic hnames hmore vs
    constructor
    · intro found
      rw [← toOption_eq_some_iff, hcut, toOption_bind, Option.bind_eq_some_iff]
      simp only [toOption_eq_some_iff]
    · rw [← toOption_eq_none_iff, hcut, toOption_eq_none_iff]
  · intro root path hroot
    have hplain : .plain [] ∉ parse path := by
      have hmem := plain_nil_notMem_parse path.toList
      rwa [String.ofList_toList] at hmem
    rw [toOption_runSegments_flatMap_singles hacyclic hplain]
    -- the two paths that find the root have no segments
    by_cases hpath : path = "" ∨ path = "."
    · have hnone : parse path = [] := by
        rcases hpath with rfl | rfl <;> decide +kernel
      rw [find, if_pos hpath, hnone]
      rfl
    · rw [find_eq_runSegments hroot (not_or.mp hpath).1 (not_or.mp hpath).2]

/-- Two ways to a shared array: what is found there, an index that it lacks, and a path that a star
cuts between its names. -/
theorem plain_append_shared :
    let s : Store := ⟨#[.object [("a", .container ⟨1⟩), ("b", .container ⟨1⟩)],
      .object [("c", .container ⟨2⟩)], .array [.integer 1, .integer 2]]⟩
    (∀ h, s.AcyclicFrom h) ∧
      s.applyAll (.plain (["a", "c"] ++ ["1"])) [.container ⟨0⟩, .null, .container ⟨0⟩] =
        .ok [.integer 2, .integer 2] ∧
      (∃ e, s.applyAll (.plain (["b"] ++ ["c", "2"])) [.container ⟨0⟩] = .error e) ∧
      parse "b.c[*]" = [.plain ["b"], .plain ["c"], .array .all] ∧
      (s.find (.container ⟨0⟩) "b.c[*]").toOption = some [.integer 1, .integer 2] := by
  intro s
  have hcell : ∀ i, s.cell ⟨i + 3⟩ = .array [] := fun _ => rfl
  have hacyclic : ∀ h, s.AcyclicFrom h := by
    refine acyclicFrom_of_index_lt fun g h hchild => ?_
    obtain ⟨hlt, hmem⟩ := hchild
    rcases g with ⟨_ | _ | _ | i⟩
    case succ.succ.succ => simp [hcell, Cell.children] at hmem
    all_goals simp_all [s, Store.cell, Cell.children]
  obtain ⟨hcut, hpath⟩ := plain_append hacyclic
  have hparse : parse "b.c[*]" = [.plain ["b"], .plain ["c"], .array .all] := by decide +kernel
  refine ⟨hacyclic, ?_, ?_, hparse, ?_⟩
  · refine ((hcut ["a", "c"] ["1"] _ (List.cons_ne_nil _ _) (List.cons_ne_nil _ _)).1 _).mpr ?_
    exact ⟨[.container ⟨2⟩, .container ⟨2⟩], by decide +kernel, by decide +kernel⟩
  · refine (hcut ["b"] ["c", "2"] _ (List.cons_ne_nil _ _) (List.cons_ne_nil _ _)).2.mpr ?_
    exact ⟨.indexOutOfRange 2 2, by decide +kernel⟩
  · rw [hpath (.container ⟨0⟩) "b.c[*]" rfl, hparse]
    decide +kernel

end DocQuery.Store
