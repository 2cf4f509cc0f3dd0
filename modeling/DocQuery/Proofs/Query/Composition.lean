import Mathlib
import DocQuery.Proofs.Query.OutOfRange

/-!
# Paths Compose

A path means what its segments mean one after the other, and a segment means for a row of values
what it means for each of them.  So a path can be cut anywhere: what is found is what the rest of
the path finds from the single values that its beginning finds, put together in their order.

When the rest fails for one of these values, the path fails, but the error need not be the same:
the path goes on segment by segment and not value by value, so another value may fail first.
Errors are therefore left out where rows of values are put together.  All of them are indices out of
range, as long as no glob of the path is too large to be compiled.  Such a glob stops the path as
soon as a value comes to it, even if a fragment behind it is not understood.

## Main definitions

- `StopsAt`: a value comes to a glob of the path that is too large

## Main statements

- `runSegments_append`: a row of segments is run one after the other
- `runSegments_eq_ok_iff`: a row of values is looked at one by one
- `find_eq_error_cases`, `find_eq_oversizedGlob_iff`: the errors of a path
- `find_composes`: paths that are understood, and paths that are not
-/

namespace DocQuery.Store

open DocQuery.Path

variable {s : Store} {root v : Value} {vs ws : List Value} {first : Segment}
  {segments front back : List Segment}

/-! ## One segment after the other -/

theorem known_of_cons (hknown : ∀ fragment, .unrecognized fragment ∉ first :: segments) :
    (∀ fragment, first ≠ .unrecognized fragment) ∧
      ∀ fragment, .unrecognized fragment ∉ segments := by
  constructor
  · rintro fragment rfl
    exact hknown fragment List.mem_cons_self
  · exact fun fragment hmem => hknown fragment (List.mem_cons_of_mem first hmem)

/-- Segments that are understood are run first, and the others go on from what they find. -/
theorem runSegments_append (hknown : ∀ fragment, .unrecognized fragment ∉ front)
    (back : List Segment) (vs : List Value) :
    s.runSegments (front ++ back) vs = s.runSegments front vs >>= s.runSegments back := by
  induction front generalizing vs with
  | nil => rfl
  | cons first front ih =>
    obtain ⟨hfirst, hfront⟩ := known_of_cons hknown
    rw [List.cons_append, runSegments_cons hfirst, runSegments_cons hfirst]
    cases s.applyAll first vs with
    | error e => rfl
    | ok found => exact ih hfront found

/-! ## One value after the other -/

theorem toOption_applyAll_append (s : Store) (segment : Segment) (vs ws : List Value) :
    (s.applyAll segment (vs ++ ws)).toOption =
      (s.applyAll segment vs).toOption.bind fun found =>
        (s.applyAll segment ws).toOption.map fun more => found ++ more := by
  rw [applyAll_append]
  cases s.applyAll segment vs with
  | error e => rfl
  | ok found => cases s.applyAll segment ws <;> rfl

/-- Segments that are understood find from two rows of values what they find from each of them, if
they find something from both. -/
theorem toOption_runSegments_append (hknown : ∀ fragment, .unrecognized fragment ∉ segments)
    (vs ws : List Value) :
    (s.runSegments segments (vs ++ ws)).toOption =
      (s.runSegments segments vs).toOption.bind fun found =>
        (s.runSegments segments ws).toOption.map fun more => found ++ more := by
  -- on the segments; the first one leaves two rows of values again
  induction segments generalizing vs ws with
  | nil => rfl
  | cons first segments ih =>
    obtain ⟨hfirst, hrest⟩ := known_of_cons hknown
    have hstep : ∀ us, (s.runSegments (first :: segments) us).toOption =
        (s.applyAll first us).toOption.bind fun found =>
          (s.runSegments segments found).toOption := by
      intro us
      rw [runSegments_cons hfirst]
      cases s.applyAll first us <;> rfl
    rw [hstep, hstep, hstep, toOption_applyAll_append]
    cases (s.applyAll first vs).toOption with
    | none => rfl
    | some found =>
      cases (s.applyAll first ws).toOption with
      | none => exact (Option.bind_fun_none _).symm
      | some more => exact ih hrest found more

/-- Segments that are understood find from a row of values what they find from each of them, put
together in order. -/
theorem runSegments_eq_ok_iff (hknown : ∀ fragment, .unrecognized fragment ∉ segments)
    {found : List Value} :
    s.runSegments segments vs = .ok found ↔
      ∃ parts, List.Forall₂ (fun v part => s.runSegments segments [v] = .ok part) vs parts ∧
        found = parts.flatten := by
  have hok : ∀ {us r}, s.runSegments segments us = .ok r ↔
      (s.runSegments segments us).toOption = some r := by
    intro us r
    cases s.runSegments segments us <;> simp [Except.toOption]
  -- on the values; a success of the row is one of its first value and one of the rest
  induction vs generalizing found with
  | nil =>
    rw [runSegments_nil_values]
    constructor
    · rintro ⟨⟩
      exact ⟨[], .nil, rfl⟩
    · rintro ⟨_, ⟨⟩, rfl⟩
      rfl
  | cons v vs ih =>
    rw [hok, ← List.singleton_append, toOption_runSegments_append hknown, Option.bind_eq_some_iff]
    constructor
    · rintro ⟨part, hv, hmap⟩
      obtain ⟨rest, hvs, rfl⟩ := Option.map_eq_some_iff.mp hmap
      obtain ⟨parts, hparts, rfl⟩ := ih.mp (hok.mpr hvs)
      exact ⟨part :: parts, .cons (hok.mpr hv) hparts, rfl⟩
    · rintro ⟨_, hparts, rfl⟩
      cases hparts with
      | @cons _ part _ parts hv hvs =>
        refine ⟨part, hok.mp hv, Option.map_eq_some_iff.mpr ⟨parts.flatten, ?_, rfl⟩⟩
        exact hok.mp (ih.mpr ⟨parts, hvs, rfl⟩)

/-- A run from several values fails if and only if it fails from one of them. -/
theorem exists_runSegments_error_iff (hknown : ∀ fragment, .unrecognized fragment ∉ segments) :
    (∃ e, s.runSegments segments vs = .error e) ↔
      ∃ v ∈ vs, ∃ e, s.runSegments segments [v] = .error e := by
  have hnone : ∀ us, (∃ e, s.runSegments segments us = .error e) ↔
      (s.runSegments segments us).toOption = none := by
    intro us
    cases s.runSegments segments us <;> simp [Except.toOption]
  simp only [hnone]
  induction vs with
  | nil =>
    rw [runSegments_nil_values]
    simp [Except.toOption]
  | cons v vs ih =>
    rw [← List.singleton_append, toOption_runSegments_append hknown]
    cases hv : (s.runSegments segments [v]).toOption with
    | none => simp [hv]
    | some part => simp [hv, ih]

/-! ## Cutting a row of segments -/

section Cut

variable (hfront : ∀ fragment, .unrecognized fragment ∉ front)
  (hback : ∀ fragment, .unrecognized fragment ∉ back)

include hfront

include hback in
/-- The second half is run from each of the values that the first half finds. -/
theorem runSegments_append_eq_ok_iff {found : List Value} :
    s.runSegments (front ++ back) vs = .ok found ↔
      ∃ middle parts, s.runSegments front vs = .ok middle ∧
        List.Forall₂ (fun v part => s.runSegments back [v] = .ok part) middle parts ∧
        found = parts.flatten := by
  rw [runSegments_append hfront]
  cases s.runSegments front vs with
  | error e =>
    constructor
    · rintro ⟨⟩
    · rintro ⟨middle, parts, ⟨⟩, _⟩
  | ok middle =>
    show s.runSegments back middle = .ok found ↔ _
    rw [runSegments_eq_ok_iff hback]
    constructor
    · rintro ⟨parts, hparts, hfound⟩
      exact ⟨middle, parts, rfl, hparts, hfound⟩
    · rintro ⟨_, parts, ⟨⟩, hparts, hfound⟩
      exact ⟨parts, hparts, hfound⟩

include hback in
/-- Two halves fail if the first one fails, or the second one from a value that the first finds. -/
theorem runSegments_append_fails_iff :
    (∃ e, s.runSegments (front ++ back) vs = .error e) ↔
      (∃ e, s.runSegments front vs = .error e) ∨
        ∃ middle v e, s.runSegments front vs = .ok middle ∧ v ∈ middle ∧
          s.runSegments back [v] = .error e := by
  rw [runSegments_append hfront]
  cases s.runSegments front vs with
  | error e => exact iff_of_true ⟨e, rfl⟩ (.inl ⟨e, rfl⟩)
  | ok middle =>
    show (∃ e, s.runSegments back middle = .error e) ↔ _
    rw [exists_runSegments_error_iff hback]
    constructor
    · rintro ⟨v, hv, e, hfails⟩
      exact .inr ⟨middle, v, e, rfl, hv, hfails⟩
    · rintro (⟨e, ⟨⟩⟩ | ⟨_, v, e, ⟨⟩, hv, hfails⟩)
      exact ⟨v, hv, e, hfails⟩

/-- A fragment that is not understood finds nothing, but the segments before it are run. -/
theorem runSegments_unrecognized (fragment : String) (later : List Segment) :
    s.runSegments (front ++ .unrecognized fragment :: later) vs =
      (s.runSegments front vs).map fun _ => [] := by
  rw [runSegments_append hfront]
  cases s.runSegments front vs <;> rfl

end Cut

/-! ## Fragments that are not understood -/

theorem unrecognized?_eq_some_iff {fragment : String} :
    first.unrecognized? = some fragment ↔ first = .unrecognized fragment := by
  cases first <;> simp [Segment.unrecognized?]

/-- The first fragment that is not understood, and the segments before it. -/
theorem exists_first_unrecognized {fragment : String}
    (hmem : .unrecognized fragment ∈ segments) :
    ∃ front fragment later, segments = front ++ .unrecognized fragment :: later ∧
      ∀ other, .unrecognized other ∉ front := by
  cases hfind : segments.findSome? Segment.unrecognized? with
  | none => exact absurd (List.findSome?_eq_none_iff.mp hfind _ hmem) (Option.some_ne_none fragment)
  | some fragment =>
    obtain ⟨front, first, later, rfl, hfirst, hfront⟩ := List.findSome?_eq_some_iff.mp hfind
    obtain rfl := unrecognized?_eq_some_iff.mp hfirst
    refine ⟨front, fragment, later, rfl, fun other hother => ?_⟩
    exact absurd (hfront _ hother) (Option.some_ne_none other)

theorem exists_compile_error_iff {path : String} :
    (∃ e, compile path = .error e) ↔ ∃ fragment, .unrecognized fragment ∈ parse path := by
  unfold compile
  dsimp only
  cases hfind : (parse path).findSome? Segment.unrecognized? with
  | none =>
    constructor
    · rintro ⟨e, ⟨⟩⟩
    · rintro ⟨fragment, hmem⟩
      exact absurd (List.findSome?_eq_none_iff.mp hfind _ hmem) (Option.some_ne_none fragment)
  | some fragment =>
    obtain ⟨first, hmem, hfirst⟩ := List.exists_of_findSome?_eq_some hfind
    exact iff_of_true ⟨_, rfl⟩ ⟨fragment, unrecognized?_eq_some_iff.mp hfirst ▸ hmem⟩

/-! ## Paths -/

theorem find_eq_runSegments {path : String} (hroot : root.isContainer = true) (hempty : path ≠ "")
    (hdot : path ≠ ".") : s.find root path = s.runSegments (parse path) [root] := by
  rw [find, if_neg (not_or.mpr ⟨hempty, hdot⟩), hroot]
  rfl

/-- A path with a fragment that is not understood finds nothing, or fails before that fragment. -/
theorem find_of_unrecognized {path fragment : String}
    (hmem : .unrecognized fragment ∈ parse path) :
    s.find root path = .ok [] ∨
      ∃ front fragment later e, parse path = front ++ .unrecognized fragment :: later ∧
        (∀ other, .unrecognized other ∉ front) ∧ s.runSegments front [root] = .error e ∧
        s.find root path = .error e := by
  have hpath : path ≠ "" ∧ path ≠ "." := ne_of_parse_ne_nil (List.ne_nil_of_mem hmem)
  by_cases hroot : root.isContainer = true
  · obtain ⟨front, first, later, hparse, hfront⟩ := exists_first_unrecognized hmem
    have hfind : s.find root path = (s.runSegments front [root]).map fun _ => [] := by
      rw [find_eq_runSegments hroot hpath.1 hpath.2, hparse, runSegments_unrecognized hfront]
    cases hrun : s.runSegments front [root] with
    | ok found =>
      rw [hrun] at hfind
      exact .inl hfind
    | error e =>
      rw [hrun] at hfind
      exact .inr ⟨front, first, later, e, hparse, hfront, hrun, hfind⟩
  · left
    rw [find, if_neg (not_or.mpr hpath), Bool.eq_false_of_not_eq_true hroot]
    rfl

/-! ## Globs that are too large -/

/-- A value that the path has found comes to a glob that is not compiled. -/
def StopsAt (s : Store) (root : Value) (path pattern : String) : Prop :=
  root.isContainer = true ∧ Glob.compile? pattern = none ∧
    ∃ front back v found, parse path = front ++ .glob pattern :: back ∧
      s.runSegments front [root] = .ok (v :: found)

/-- A path fails on an index, or at a glob that is not compiled. -/
theorem find_eq_error_cases {path : String} {e : QueryError} (hfind : s.find root path = .error e) :
    (∃ i n, e = .indexOutOfRange i n) ∨
      ∃ pattern, e = .oversizedGlob pattern ∧ s.StopsAt root path pattern := by
  obtain ⟨hroot, hrun⟩ := runSegments_of_find_eq_error hfind
  obtain ⟨front, segment, back, found, v, hparse, hfront, hv, happly⟩ := runSegments_eq_error hrun
  obtain ⟨g, index, rfl, -⟩ | ⟨pattern, rfl, rfl, hnone⟩ := apply_eq_error happly
  · exact .inl ⟨index, _, rfl⟩
  · obtain ⟨w, ws, rfl⟩ := List.exists_cons_of_ne_nil (List.ne_nil_of_mem hv)
    exact .inr ⟨pattern, rfl, hroot, hnone, front, back, w, ws, hparse, hfront⟩

/-- Where something is found all segments are understood. -/
theorem unrecognized_notMem_of_runSegments {found : List Value}
    (hrun : s.runSegments segments vs = .ok (v :: found)) (fragment : String) :
    .unrecognized fragment ∉ segments := by
  intro hmem
  obtain ⟨front, first, later, rfl, hfront⟩ := exists_first_unrecognized hmem
  rw [runSegments_unrecognized hfront] at hrun
  cases hresult : s.runSegments front vs <;> rw [hresult] at hrun <;> cases hrun

/-- A glob that is not compiled stops a path exactly if a value comes to it. -/
theorem find_eq_oversizedGlob_iff {path pattern : String} :
    s.find root path = .error (.oversizedGlob pattern) ↔ s.StopsAt root path pattern := by
  constructor
  · intro hfind
    obtain ⟨i, n, h⟩ | ⟨other, h, hstops⟩ := find_eq_error_cases hfind
    · cases h
    · cases h
      exact hstops
  · rintro ⟨hroot, hnone, front, back, v, found, hparse, hfront⟩
    have hpath : path ≠ "" ∧ path ≠ "." := ne_of_parse_ne_nil (by simp [hparse])
    rw [find_eq_runSegments hroot hpath.1 hpath.2, hparse,
      runSegments_append (unrecognized_notMem_of_runSegments hfront), hfront]
    have hglob : ∀ fragment, Segment.glob pattern ≠ .unrecognized fragment := nofun
    show s.runSegments (.glob pattern :: back) (v :: found) = _
    rw [runSegments_cons hglob, applyAll, Glob.apply_of_compile?_eq_none hnone]
    rfl

/-! ## Composition -/

/-- A path whose segments are all understood finds what its last segments find from each of the
values that its first segments find, wherever it is cut; if one of these runs fails it fails, and
only then.  A path with a fragment that is not understood finds nothing, or it fails in a segment
before.  If all globs of a path are compiled it fails on an index only.  A glob that is not compiled
stops the path exactly if a value comes to it, and there is no other error. -/
theorem find_composes (s : Store) (root : Value) (path : String) :
    (∀ front back, root.isContainer = true → path ≠ "" → path ≠ "." → parse path = front ++ back →
      (∀ fragment, .unrecognized fragment ∉ parse path) →
        (∀ found, s.find root path = .ok found ↔
          ∃ middle parts, s.runSegments front [root] = .ok middle ∧
            List.Forall₂ (fun v part => s.runSegments back [v] = .ok part) middle parts ∧
            found = parts.flatten) ∧
        ((∃ e, s.find root path = .error e) ↔
          (∃ e, s.runSegments front [root] = .error e) ∨
            ∃ middle v e, s.runSegments front [root] = .ok middle ∧ v ∈ middle ∧
              s.runSegments back [v] = .error e)) ∧
      ((∃ e, compile path = .error e) ↔ ∃ fragment, .unrecognized fragment ∈ parse path) ∧
      (∀ fragment, .unrecognized fragment ∈ parse path →
        s.find root path = .ok [] ∨
          ∃ front fragment later e, parse path = front ++ .unrecognized fragment :: later ∧
            (∀ other, .unrecognized other ∉ front) ∧ s.runSegments front [root] = .error e ∧
            s.find root path = .error e) ∧
      (∀ e, (∀ segment ∈ parse path, Compiled segment) → s.find root path = .error e →
        ∃ i n, e = .indexOutOfRange i n) ∧
      (∀ e, s.find root path = .error e →
        (∃ i n, e = .indexOutOfRange i n) ∨ ∃ pattern, e = .oversizedGlob pattern) ∧
      ∀ pattern, s.find root path = .error (.oversizedGlob pattern) ↔
        s.StopsAt root path pattern := by
  refine ⟨fun front back hroot hempty hdot hparse hknown => ?_, exists_compile_error_iff,
    fun fragment hmem => find_of_unrecognized hmem, fun e hcompiled hfind => ?_,
    fun e hfind => (find_eq_error_cases hfind).imp_right ?_, fun _ => find_eq_oversizedGlob_iff⟩
  · -- both halves of the path are understood
    rw [hparse] at hknown
    have hfront : ∀ fragment, .unrecognized fragment ∉ front := fun fragment hmem =>
      hknown fragment (List.mem_append_left back hmem)
    have hback : ∀ fragment, .unrecognized fragment ∉ back := fun fragment hmem =>
      hknown fragment (List.mem_append_right front hmem)
    rw [find_eq_runSegments hroot hempty hdot, hparse]
    exact ⟨fun found => runSegments_append_eq_ok_iff hfront hback,
      runSegments_append_fails_iff hfront hback⟩
  · -- a glob that stops the path would be one of its segments
    obtain hindex | ⟨pattern, -, -, hnone, front, back, -, -, hparse, -⟩ :=
      find_eq_error_cases hfind
    · exact hindex
    · exact absurd hnone (hcompiled (.glob pattern) (by simp [hparse]) pattern rfl)
  · rintro ⟨pattern, he, -⟩
    exact ⟨pattern, he⟩

/-- An index that all arrays have, one that the last of them lacks, and a bracket that says
nothing. -/
theorem find_composes_arrays :
    let s : Store := ⟨#[.object [("a", .container ⟨1⟩)], .array [.container ⟨2⟩, .container ⟨3⟩],
      .array [.integer 1, .integer 2], .array [.integer 3]]⟩
    s.find (.container ⟨0⟩) "a[*][0]" = .ok [.integer 1, .integer 3] ∧
      (∀ segment ∈ parse "a[*][1]", Compiled segment) ∧
      (∃ e i n, s.find (.container ⟨0⟩) "a[*][1]" = .error e ∧ e = .indexOutOfRange i n) ∧
      (∃ e, compile "a[x]" = .error e) ∧
      ∀ v found, s.find (.container ⟨0⟩) "a[x]" ≠ .ok (v :: found) := by
  intro s
  have hfirst : parse "a[*][0]" =
      [.plain ["a"], .array .all] ++ [.array (.slices [.index 0])] := by decide +kernel
  have hsecond : parse "a[*][1]" =
      [.plain ["a"], .array .all] ++ [.array (.slices [.index 1])] := by decide +kernel
  have hunknown : .unrecognized "[x]" ∈ parse "a[x]" := by decide +kernel
  have hmiddle : s.runSegments [.plain ["a"], .array .all] [.container ⟨0⟩] =
      .ok [.container ⟨2⟩, .container ⟨3⟩] := by decide +kernel
  have hcompiled : ∀ segment ∈ parse "a[*][1]", Compiled segment := by
    rw [hsecond]
    rintro segment hmem pattern rfl
    simp at hmem
  obtain ⟨hfound, -⟩ := (find_composes s (.container ⟨0⟩) "a[*][0]").1 _ _ rfl (by decide)
    (by decide) hfirst (by rw [hfirst]; simp)
  obtain ⟨hruns, -, -, hindex, -⟩ := find_composes s (.container ⟨0⟩) "a[*][1]"
  obtain ⟨-, hfails⟩ := hruns _ _ rfl (by decide) (by decide) hsecond (by rw [hsecond]; simp)
  obtain ⟨-, hcompile, hnothing, -⟩ := find_composes s (.container ⟨0⟩) "a[x]"
  have hlast : ∃ e, s.find (.container ⟨0⟩) "a[*][1]" = .error e :=
    hfails.mpr (.inr ⟨_, .container ⟨3⟩, .indexOutOfRange 1 1, hmiddle, by decide,
      by decide +kernel⟩)
  refine ⟨(hfound _).mpr ⟨_, [[.integer 1], [.integer 3]], hmiddle, ?_, rfl⟩, hcompiled, ?_,
    hcompile.mpr ⟨_, hunknown⟩, fun v found hfind => ?_⟩
  · exact .cons (by decide +kernel) (.cons (by decide +kernel) .nil)
  · obtain ⟨e, herror⟩ := hlast
    obtain ⟨i, n, he⟩ := hindex e hcompiled herror
    exact ⟨e, i, n, herror, he⟩
  · rcases hnothing _ hunknown with hnone | ⟨_, _, _, e, -, -, -, herror⟩
    · rw [hfind] at hnone
      cases hnone
    · rw [hfind] at herror
      cases herror

/-- A glob of many stars stops the path in front of a bracket that says nothing. -/
theorem find_composes_manyStars :
    let s : Store := ⟨#[.object []]⟩
    let path := String.ofList (Glob.manyStars ++ ['[', 'x', ']'])
    parse path = [.glob (String.ofList Glob.manyStars), .unrecognized "[x]"] ∧
      s.find (.container ⟨0⟩) path = .error (.oversizedGlob (String.ofList Glob.manyStars)) ∧
      s.find (.container ⟨0⟩) path ≠ .ok [] ∧
      ∀ i n, s.find (.container ⟨0⟩) path ≠ .error (.indexOutOfRange i n) := by
  intro s path
  have hparse : parse path = [.glob (String.ofList Glob.manyStars), .unrecognized "[x]"] := by
    have hrest : (splitFrom ['[', 'x', ']']).map segmentOf = [.unrecognized "[x]"] := by
      decide +kernel
    rw [← hrest]
    exact parse_pattern_append Glob.isPattern_manyStars (ends_cons (by decide) _)
  have hfind : s.find (.container ⟨0⟩) path =
      .error (.oversizedGlob (String.ofList Glob.manyStars)) :=
    find_eq_oversizedGlob_iff.mpr ⟨rfl, Glob.compile?_manyStars, [], _, _, [], hparse, rfl⟩
  refine ⟨hparse, hfind, ?_, fun i n hindex => ?_⟩
  · rw [hfind]
    exact nofun
  · rw [hfind] at hindex
    cases hindex

end DocQuery.Store
