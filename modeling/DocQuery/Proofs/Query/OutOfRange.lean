import Mathlib
import DocQuery.Proofs.Query.Globs
import DocQuery.Proofs.Query.Locality

/-!
# Where Queries Fail

The error that a query reports is that of an index.  Two things are read as an index: a name of
digits, where a walk comes to an array, and a number in brackets.  So plain names, a key in quotes
and a list of pieces with a single index can fail, and no other segment can.  A negative number in
brackets never fails, because it is brought into the container like the bound of a range.

A search and a filter run walks and expressions of their own, but what fails there is a miss.

A glob looks up no index and reports no error, but a glob that is too large to be compiled stops the
query instead of finding something.

## Main definitions

- `OutOfRange`: how a segment comes upon an index that its container lacks
- `IndexFree`: segments without a name or number that could be an index
- `Compiled`: segments that are no glob too large to be compiled

## Main statements

- `apply_eq_error`: what a segment fails on
- `runSegments_eq_error`: a row of segments fails at one of them, from one of its values
- `find_fails_on_index`: what a path fails on
-/

namespace DocQuery.Store

open DocQuery.Decimal DocQuery.Path

variable {s : Store} {root v : Value} {vs : List Value} {segment : Segment}
  {segments : List Segment} {e : QueryError}

/-- The segment comes upon `index` in the container `g`, which has no such index.  What is reported
for a name is at most the greatest integer of 64 bits. -/
inductive OutOfRange (s : Store) : Segment → Value → Handle → Int → Prop where
  /-- A walk that comes to an array with a name of digits -/
  | name {names front back : List String} {name : String} {v : Value} {g : Handle}
      {items : List Value} (hnames : names = front ++ name :: back)
      (hwalk : s.walk v front = .ok (some (.container g))) (hcell : s.cell g = .array items)
      (hdigits : isInteger name.toList = true) (hpast : items.length ≤ readIndex name.toList) :
      OutOfRange s (.plain names) v g (min (readIndex name.toList : Int) Int64.maxValue.toInt)
  /-- A key of digits in an array -/
  | key {name : String} {g : Handle} {items : List Value} (hcell : s.cell g = .array items)
      (hdigits : isInteger name.toList = true) (hpast : items.length ≤ readIndex name.toList) :
      OutOfRange s (.array (.key name)) (.container g) g
        (min (readIndex name.toList : Int) Int64.maxValue.toInt)
  /-- A single index among the pieces for a container that is not empty -/
  | piece {pieces : List SlicePiece} {n : Int64} {g : Handle} (hpiece : .index n ∈ pieces)
      (hne : 0 < (s.cell g).size) (hpast : (s.cell g).size ≤ n.toInt) :
      OutOfRange s (.array (.slices pieces)) (.container g) g n.toInt

/-- Neither a name nor a number in the segment could be an index. -/
def IndexFree : Segment → Prop
  | .plain _ | .array (.key _) => False
  | .array (.slices pieces) => ∀ n, .index n ∉ pieces
  | _ => True

/-- If the segment is a glob, it can be compiled. -/
def Compiled (segment : Segment) : Prop :=
  ∀ pattern, segment = .glob pattern → Glob.compile? pattern ≠ none

/-- An array in memory has all its indices below what is reported. -/
theorem OutOfRange.size_le {g : Handle} {index : Int} (hfails : s.OutOfRange segment v g index)
    (hmemory : ∀ g items, s.cell g = .array items → items.length < 2 ^ 63) :
    (s.cell g).size ≤ index := by
  have hmax : Int64.maxValue.toInt = 2 ^ 63 - 1 := by decide
  cases hfails with
  | name hnames hwalk hcell hdigits hpast | key hcell hdigits hpast =>
    have hlength := hmemory _ _ hcell
    rw [hcell, Cell.size, Cell.children]
    omega
  | piece hpiece hne hpast => exact hpast

/-! ## Names -/

/-- A step fails in an array, on a name of digits. -/
theorem stepName_eq_error {name : String} (hstep : s.stepName v name = .error e) :
    ∃ g items, v = .container g ∧ s.cell g = .array items ∧ isInteger name.toList = true ∧
      items.length ≤ readIndex name.toList ∧
      e = indexError (readIndex name.toList) items.length := by
  unfold stepName at hstep
  cases v with
  | container g =>
    dsimp only at hstep
    cases hcell : s.cell g with
    | object members => rw [hcell] at hstep; cases hstep
    | array items =>
      rw [hcell] at hstep
      dsimp only at hstep
      split at hstep
      · next hdigits =>
        split at hstep
        · cases hstep
        · next hnone =>
          cases hstep
          exact ⟨g, items, rfl, hcell, hdigits, List.getElem?_eq_none_iff.mp hnone, rfl⟩
      · cases hstep
  | _ => cases hstep

/-- A walk fails at one of its names. -/
theorem walk_eq_error {names : List String} (hwalk : s.walk v names = .error e) :
    ∃ front name back w, names = front ++ name :: back ∧ s.walk v front = .ok (some w) ∧
      s.stepName w name = .error e := by
  induction names generalizing v with
  | nil => cases hwalk
  | cons name names ih =>
    cases hstep : s.stepName v name with
    | error other =>
      rw [walk, hstep] at hwalk
      cases hwalk
      exact ⟨[], name, names, v, rfl, rfl, hstep⟩
    | ok hit =>
      rw [walk, hstep] at hwalk
      cases hit with
      | none => cases hwalk
      | some next =>
        obtain ⟨front, last, back, w, rfl, hfront, hlast⟩ := ih hwalk
        refine ⟨name :: front, last, back, w, rfl, ?_, hlast⟩
        rw [walk, hstep]
        exact hfront

theorem navigate_eq_error {names : List String} (hnavigate : s.navigate names v = .error e) :
    ∃ front name back g items, names = front ++ name :: back ∧
      s.walk v front = .ok (some (.container g)) ∧ s.cell g = .array items ∧
      isInteger name.toList = true ∧ items.length ≤ readIndex name.toList ∧
      e = indexError (readIndex name.toList) items.length := by
  have hwalk : s.walk v names = .error e := by
    rw [navigate] at hnavigate
    cases hresult : s.walk v names with
    | error other => rw [hresult] at hnavigate; cases hnavigate; rfl
    | ok hit => rw [hresult] at hnavigate; cases hnavigate
  obtain ⟨front, name, back, w, hnames, hfront, hstep⟩ := walk_eq_error hwalk
  obtain ⟨g, items, rfl, hcell, hdigits, hpast, he⟩ := stepName_eq_error hstep
  exact ⟨front, name, back, g, items, hnames, hfront, hcell, hdigits, hpast, he⟩

/-! ## Pieces -/

section Pieces

variable {α : Type} {items : List α}

/-- A range never fails, and a single index only if there is no element for it. -/
theorem pick_eq_error {piece : SlicePiece} (hpick : Slice.pick items piece = .error e) :
    ∃ n, piece = .index n ∧ items.length ≤ Slice.resolve items.length n ∧
      e = .indexOutOfRange n.toInt items.length := by
  cases piece with
  | range start stop => cases hpick
  | index n =>
    rw [Slice.pick] at hpick
    split at hpick
    · cases hpick
    · next hnone =>
      cases hpick
      exact ⟨n, rfl, List.getElem?_eq_none_iff.mp hnone, rfl⟩

theorem pickAll_eq_error {pieces : List SlicePiece}
    (hall : Slice.pickAll items pieces = .error e) :
    ∃ piece ∈ pieces, Slice.pick items piece = .error e := by
  induction pieces with
  | nil => cases hall
  | cons piece pieces ih =>
    rw [Slice.pickAll] at hall
    cases hfirst : Slice.pick items piece with
    | error other =>
      rw [hfirst] at hall
      cases hall
      exact ⟨piece, List.mem_cons_self, hfirst⟩
    | ok picked =>
      rw [hfirst] at hall
      cases hrest : Slice.pickAll items pieces with
      | ok more => rw [hrest] at hall; cases hall
      | error other =>
        rw [hrest] at hall
        cases hall
        obtain ⟨later, hlater, hfails⟩ := ih hrest
        exact ⟨later, List.mem_cons_of_mem piece hlater, hfails⟩

/-- A list of pieces fails on a single index, which lies past the end. -/
theorem slice_eq_error {pieces : List SlicePiece}
    (hselect : Slice.select items pieces = .error e) :
    ∃ n, .index n ∈ pieces ∧ 0 < items.length ∧ (items.length : Int) ≤ n.toInt ∧
      e = .indexOutOfRange n.toInt items.length := by
  rw [Slice.select] at hselect
  split at hselect
  · cases hselect
  · next hne =>
    obtain ⟨piece, hpiece, hfails⟩ := pickAll_eq_error hselect
    obtain ⟨n, rfl, hpast, he⟩ := pick_eq_error hfails
    have hlength : 0 < items.length :=
      List.length_pos_iff.mpr (mt List.isEmpty_iff.mpr (by simpa using hne))
    -- from the end a number is a position in the list, so this one counts from the start
    have hnonneg : 0 ≤ n.toInt := by
      by_contra hneg
      rw [Slice.resolve_of_neg (by omega)] at hpast
      omega
    rw [Slice.resolve_of_nonneg hnonneg] at hpast
    exact ⟨n, hpiece, hlength, by omega, he⟩

end Pieces

/-! ## Segments -/

/-- A segment fails on an index that a container lacks, or it is a glob that is not compiled. -/
theorem apply_eq_error (happly : s.apply segment v = .error e) :
    (∃ g index, e = .indexOutOfRange index (s.cell g).size ∧ s.OutOfRange segment v g index) ∨
      ∃ pattern, e = .oversizedGlob pattern ∧ segment = .glob pattern ∧
        Glob.compile? pattern = none := by
  have hmap : ∀ {names}, (s.navigate names v).map Option.toList = .error e →
      s.navigate names v = .error e := by
    intro names hnames
    cases hresult : s.navigate names v with
    | error other => rw [hresult] at hnames; cases hnames; rfl
    | ok hit => rw [hresult] at hnames; cases hnames
  cases segment with
  | plain names =>
    obtain ⟨front, name, back, g, items, hnames, hwalk, hcell, hdigits, hpast, rfl⟩ :=
      navigate_eq_error (hmap happly)
    refine .inl ⟨g, _, ?_, .name hnames hwalk hcell hdigits hpast⟩
    rw [hcell]
    rfl
  | glob pattern =>
    rw [apply] at happly
    cases hcompiled : Glob.compile? pattern with
    | some p => rw [hcompiled] at happly; cases happly
    | none =>
      rw [hcompiled] at happly
      cases happly
      exact .inr ⟨pattern, rfl, rfl, hcompiled⟩
  | array selector =>
    replace happly : s.select selector v = .error e := happly
    unfold select at happly
    cases v with
    | container h =>
      simp only [Value.isContainer, Value.handle?, Option.isSome_some, Bool.not_true,
        Bool.false_eq_true, if_false] at happly
      cases selector with
      | all => cases happly
      | slices pieces =>
        obtain ⟨n, hpiece, hne, hpast, rfl⟩ := slice_eq_error happly
        exact .inl ⟨h, _, rfl, .piece hpiece hne hpast⟩
      | key name =>
        obtain ⟨front, last, back, g, items, hnames, hwalk, hcell, hdigits, hpast, rfl⟩ :=
          navigate_eq_error (hmap happly)
        -- there is a single name, so the walk has not gone anywhere
        obtain ⟨rfl, hlast⟩ | ⟨tail, -, htail⟩ := List.cons_eq_append_iff.mp hnames
        · cases hlast
          cases hwalk
          refine .inl ⟨h, _, ?_, .key hcell hdigits hpast⟩
          rw [hcell]
          rfl
        · exact absurd htail (by simp)
    | _ => cases happly
  | _ => cases happly

/-- A segment fails at the first value that it fails from. -/
theorem applyAll_eq_error (happly : s.applyAll segment vs = .error e) :
    ∃ v ∈ vs, s.apply segment v = .error e := by
  induction vs with
  | nil => cases happly
  | cons v vs ih =>
    rw [applyAll] at happly
    cases hfirst : s.apply segment v with
    | error other =>
      rw [hfirst] at happly
      cases happly
      exact ⟨v, List.mem_cons_self, hfirst⟩
    | ok found =>
      rw [hfirst] at happly
      cases hrest : s.applyAll segment vs with
      | ok more => rw [hrest] at happly; cases happly
      | error other =>
        rw [hrest] at happly
        cases happly
        obtain ⟨w, hw, hfails⟩ := ih hrest
        exact ⟨w, List.mem_cons_of_mem v hw, hfails⟩

/-- Where nothing could be an index and nothing is too large, nothing fails. -/
theorem exists_apply_of_indexFree (hfree : IndexFree segment) (hcompiled : Compiled segment)
    (s : Store) (v : Value) : ∃ found, s.apply segment v = .ok found := by
  cases happly : s.apply segment v with
  | ok found => exact ⟨found, rfl⟩
  | error e =>
    obtain ⟨g, index, -, hfails⟩ | ⟨pattern, -, hglob, hnone⟩ := apply_eq_error happly
    · cases hfails with
      | name | key => exact hfree.elim
      | piece hpiece => exact absurd hpiece (hfree _)
    · exact absurd hnone (hcompiled pattern hglob)

/-! ## Paths -/

/-- A row of segments fails at one of them, and those before it do not fail. -/
theorem runSegments_eq_error (hrun : s.runSegments segments vs = .error e) :
    ∃ front segment back found v, segments = front ++ segment :: back ∧
      s.runSegments front vs = .ok found ∧ v ∈ found ∧ s.apply segment v = .error e := by
  induction segments generalizing vs with
  | nil => cases hrun
  | cons first segments ih =>
    have hknown : ∀ fragment, first ≠ .unrecognized fragment := by
      rintro fragment rfl
      cases hrun
    rw [runSegments_cons hknown] at hrun
    cases hfirst : s.applyAll first vs with
    | error other =>
      rw [hfirst] at hrun
      cases hrun
      obtain ⟨v, hv, hfails⟩ := applyAll_eq_error hfirst
      exact ⟨[], first, segments, vs, v, rfl, rfl, hv, hfails⟩
    | ok next =>
      rw [hfirst] at hrun
      obtain ⟨front, segment, back, found, v, rfl, hfront, hv, hfails⟩ := ih hrun
      refine ⟨first :: front, segment, back, found, v, rfl, ?_, hv, hfails⟩
      rw [runSegments_cons hknown, hfirst]
      exact hfront

/-- The container where a segment fails is held if the value is that it is applied to. -/
theorem OutOfRange.holds {g : Handle} {index : Int} (hfails : s.OutOfRange segment v g index)
    (hv : s.Holds root v) : s.Holds root (.container g) := by
  cases hfails with
  | name hnames hwalk hcell hdigits hpast =>
    have halike := alike_walk (AgreesBelow.refl s root) hv
    exact (hwalk ▸ halike _).of_ok _ rfl
  | key | piece => exact hv

/-- A path that fails has run its segments. -/
theorem runSegments_of_find_eq_error {path : String} (hfind : s.find root path = .error e) :
    root.isContainer = true ∧ s.runSegments (parse path) [root] = .error e := by
  unfold find at hfind
  split at hfind
  · cases hfind
  · split at hfind
    · cases hfind
    · next hroot => exact ⟨by simpa using hroot, hfind⟩

/-- A path fails at one of its segments, from one of the values that the segments before have found.
What it reports is an index, which is not below the size of a container that the root holds.  The
segment comes upon it with a name of digits in an array, plain or as a key, or with a single number
in brackets.  Otherwise the segment is a glob that is not compiled, and any such glob fails.  No
other segment fails, whatever it is applied to. -/
theorem find_fails_on_index (s : Store) (root : Value) (path : String)
    (hmemory : ∀ g items, s.cell g = .array items → items.length < 2 ^ 63) :
    (∀ e, s.find root path = .error e →
      ∃ front segment back found v, parse path = front ++ segment :: back ∧
        s.runSegments front [root] = .ok found ∧ v ∈ found ∧ s.apply segment v = .error e ∧
        ((∃ index g, e = .indexOutOfRange index (s.cell g).size ∧ s.Holds root (.container g) ∧
            (s.cell g).size ≤ index ∧ s.OutOfRange segment v g index) ∨
          ∃ pattern, e = .oversizedGlob pattern ∧ segment = .glob pattern ∧
            Glob.compile? pattern = none)) ∧
      (∀ segment v, IndexFree segment → Compiled segment → ∃ found, s.apply segment v = .ok found) ∧
      ∀ pattern v, Glob.compile? pattern = none →
        s.apply (.glob pattern) v = .error (.oversizedGlob pattern) := by
  refine ⟨fun e hfind => ?_,
    fun segment v hfree hcompiled => exists_apply_of_indexFree hfree hcompiled s v,
    fun pattern v hnone => Glob.apply_of_compile?_eq_none hnone s v⟩
  obtain ⟨-, hrun⟩ := runSegments_of_find_eq_error hfind
  obtain ⟨front, segment, back, found, v, hparse, hfront, hv, happly⟩ := runSegments_eq_error hrun
  refine ⟨front, segment, back, found, v, hparse, hfront, hv, happly,
    (apply_eq_error happly).imp_left ?_⟩
  rintro ⟨g, index, rfl, hfails⟩
  have hheld : s.HoldsAll root found := by
    have hroot : s.HoldsAll root [root] := fun w hw => .inl (List.mem_singleton.mp hw)
    have halike := alike_runSegments (AgreesBelow.refl s root) front hroot
    exact (hfront ▸ halike).of_ok
  exact ⟨index, g, rfl, hfails.holds (hheld v hv), hfails.size_le hmemory, hfails⟩

/-- A document that holds itself, and a name of digits behind a bracket. -/
theorem find_fails_on_index_cycle :
    let s : Store := ⟨#[.object [("a", .container ⟨1⟩)], .array [.container ⟨0⟩, .container ⟨2⟩],
      .array [.integer 3]]⟩
    (∀ g items, s.cell g = .array items → items.length < 2 ^ 63) ∧
      s.find (.container ⟨0⟩) "a[1].7" = .error (.indexOutOfRange 7 1) ∧
      ∃ g front segment back found v, s.Holds (.container ⟨0⟩) (.container g) ∧
        (s.cell g).size = 1 ∧ parse "a[1].7" = front ++ segment :: back ∧
        s.runSegments front [.container ⟨0⟩] = .ok found ∧ v ∈ found ∧
        s.OutOfRange segment v g 7 := by
  intro s
  have hmemory : ∀ g items, s.cell g = .array items → items.length < 2 ^ 63 := by
    rintro ⟨i⟩ items hcell
    have hlength : items.length ≤ 2 := by
      match i with
      | 0 => cases hcell
      | 1 | 2 => cases hcell; decide
      | _ + 3 => cases hcell; decide
    omega
  have hfind : s.find (.container ⟨0⟩) "a[1].7" = .error (.indexOutOfRange 7 1) := by
    decide +kernel
  obtain ⟨front, segment, back, found, v, hparse, hfront, hv, -,
      ⟨index, g, herror, hheld, -, hfails⟩ | ⟨pattern, herror, -⟩⟩ :=
    (find_fails_on_index s (.container ⟨0⟩) "a[1].7" hmemory).1 _ hfind
  · injection herror with hindex hsize
    subst hindex
    exact ⟨hmemory, hfind, g, front, segment, back, found, v, hheld, hsize.symm, hparse, hfront, hv,
      hfails⟩
  · cases herror

/-- Many stars look up no index, and still there is no answer. -/
theorem find_fails_on_manyStars :
    let s : Store := ⟨#[.object []]⟩
    let path := String.ofList Glob.manyStars
    parse path = [.glob path] ∧ IndexFree (.glob path) ∧
      s.find (.container ⟨0⟩) path = .error (.oversizedGlob path) ∧
      ∀ index length, s.find (.container ⟨0⟩) path ≠ .error (.indexOutOfRange index length) := by
  intro s path
  have hfind : s.find (.container ⟨0⟩) path = .error (.oversizedGlob path) := by
    rw [find_of_parse_singleton Glob.parse_manyStars fun _ => nofun]
    exact Glob.apply_of_compile?_eq_none Glob.compile?_manyStars s _
  refine ⟨Glob.parse_manyStars, trivial, hfind, fun index length hindex => ?_⟩
  rw [hfind] at hindex
  cases hindex

end DocQuery.Store
