import Mathlib
import DocQuery.Query.Find
import DocQuery.Proofs.Path.RoundTrip
import DocQuery.Proofs.Store.Reachability

/-!
# Addressing Every Value

Every value in an acyclic document has a path that finds it and nothing else.  The path has one
step for each level: a member is named by a bare word, by a name in double quotes or by a key in
a bracket, and an element by its index, with or without a bracket.  The steps can be mixed, and
the names may hold any mark that their spelling allows.

That the document is acyclic is needed because a walk that ends where it started is no hit.

## Main definitions

- `ChildStep`: a step to a child and the way it is written
- `Walks`: a row of steps leads from one value to another

## Main statements

- `find_childSteps`: the path of a row of steps finds exactly the value that they lead to
-/

namespace DocQuery.Query

open DocQuery.Text DocQuery.Decimal DocQuery.Path

/-! ## Steps -/

/-- A step from a container to one of its children, and the way it is written. -/
inductive ChildStep where
  /-- To a member: `name` -/
  | word (name : String)
  /-- To a member: `"name"` -/
  | quoted (name : String)
  /-- To a member: `['name']` -/
  | key (name : String)
  /-- To an element: `[i]` -/
  | index (i : Nat)
  /-- To an element: `i` -/
  | dottedIndex (i : Nat)

namespace ChildStep

/-- How a step stands in a path. -/
def piece : ChildStep → Piece
  | word name => .name (.bare name.toList)
  | quoted name => .name (.quoted name.toList)
  | key name => .bracket (keyText name.toList)
  | index i => .bracket (natText i)
  | dottedIndex i => .name (.bare (natText i))

/-- The steps that can be written.  A word is made of characters of bare names, a quoted name
holds no quote, and a key neither a closing bracket nor a line feed. -/
def Writable : ChildStep → Prop
  | word name => name.toList ≠ [] ∧ ∀ c ∈ name.toList, isBareChar c = true
  | quoted name => name.toList ≠ [] ∧ '"' ∉ name.toList
  | key name => name.toList ≠ [] ∧ ']' ∉ name.toList ∧ '\n' ∉ name.toList
  | index _ | dottedIndex _ => True

/-- The child that a step leads to. -/
def Leads (s : Store) (h : Handle) (v : Value) : ChildStep → Prop
  | word name | quoted name | key name =>
    ∃ members, s.cell h = .object members ∧ members.get? name = some v
  | index i | dottedIndex i => ∃ items, s.cell h = .array items ∧ items[i]? = some v

/-- How a step is read. -/
def segment : ChildStep → Segment
  | word name | quoted name => .plain [name]
  | key name => .array (.key name)
  | index i => .array (.slices [.index (Int64.ofNat i)])
  | dottedIndex i => .plain [String.ofList (natText i)]

/-- The index in a step fits 64 bits. -/
def Fits : ChildStep → Prop
  | index i | dottedIndex i => i < 2 ^ 63
  | _ => True

end ChildStep

/-- The path of a row of steps; the first one has no dot in front. -/
def stepsPath (steps : List ChildStep) : String :=
  String.ofList (startText (steps.map ChildStep.piece))

/-- The steps lead from one value to another. -/
inductive Walks (s : Store) : Value → List ChildStep → Value → Prop where
  /-- Without a step one stays where one is -/
  | nil (v : Value) : Walks s v [] v
  /-- A step to a child, and then the others -/
  | cons {h : Handle} {u v : Value} {step : ChildStep} {steps : List ChildStep} :
      step.Leads s h u → Walks s u steps v → Walks s (.container h) (step :: steps) v

/-- The arrays lie in memory: each element has an index of 64 bits, sign included. -/
def Indexable (s : Store) : Prop :=
  ∀ h items, s.cell h = .array items → items.length ≤ 2 ^ 63

/-! ## Reading the steps -/

theorem isBareChar_of_mem_natText {i : Nat} {c : Char} (hc : c ∈ natText i) :
    isBareChar c = true := by
  have hdigit : c.isDigit = true := isDigit_of_mem_natText hc
  simp [isBareChar, Char.isAlphanum, hdigit]

theorem natText_ne_nil (i : Nat) : natText i ≠ [] := by
  obtain ⟨c, cs, heq, -⟩ := exists_natText i
  rw [heq]
  exact List.cons_ne_nil c cs

/-- An index is written like a piece of a list. -/
theorem natText_eq_text {i : Nat} (h : i < 2 ^ 63) :
    natText i = (SlicePiece.index (Int64.ofNat i)).text := by
  rw [SlicePiece.text, Int64.toInt_ofNat_of_lt h]
  rfl

namespace ChildStep

variable {step : ChildStep}

theorem Writable.valid_piece (h : step.Writable) : step.piece.Valid := by
  cases step with
  | word name => exact h
  | quoted name => exact h
  | key name => exact ⟨List.cons_ne_nil _ _, closeBracket_notMem_keyText h.2.1⟩
  | index i =>
    refine ⟨natText_ne_nil i, fun hmem => ?_⟩
    exact ne_of_holds (isBareChar_of_mem_natText hmem) (by decide) rfl
  | dottedIndex i => exact ⟨natText_ne_nil i, fun _ hc => isBareChar_of_mem_natText hc⟩

theorem Writable.segment_piece (h : step.Writable) (hfits : step.Fits) :
    step.piece.segment = step.segment := by
  cases step with
  | word name => simp [piece, Piece.segment, WrittenName.name, segment]
  | quoted name => simp [piece, Piece.segment, WrittenName.name, segment]
  | key name =>
    have hkey := segmentOf_key h.1 h.2.2
    rwa [String.ofList_toList] at hkey
  | index i =>
    have hslices := segmentOf_slices (List.cons_ne_nil (SlicePiece.index (Int64.ofNat i)) [])
    rw [List.map_singleton, ← natText_eq_text hfits] at hslices
    exact hslices
  | dottedIndex i => rfl

end ChildStep

/-- Steps stay apart from each other, however they are written. -/
theorem apart_steps (scanned : Bool) (steps : List ChildStep) :
    Apart scanned (steps.map ChildStep.piece) := by
  induction steps generalizing scanned with
  | nil => trivial
  | cons step steps ih => cases step <;> exact ih _

theorem separated_steps (steps : List ChildStep) : Separated (steps.map ChildStep.piece) := by
  induction steps with
  | nil => trivial
  | cons step steps ih => cases step <;> exact ih

theorem flatMap_singles_parse_stepsPath {steps : List ChildStep}
    (h : ∀ step ∈ steps, step.Writable) (hfits : ∀ step ∈ steps, step.Fits) :
    (parse (stepsPath steps)).flatMap Segment.singles = steps.map ChildStep.segment := by
  have hvalid : ∀ p ∈ steps.map ChildStep.piece, p.Valid := fun p hp => by
    obtain ⟨step, hstep, rfl⟩ := List.mem_map.mp hp
    exact (h step hstep).valid_piece
  have hroot : stripRoot (startText (steps.map ChildStep.piece)) =
      startText (steps.map ChildStep.piece) := stripRoot_startText hvalid 0
  rw [stepsPath, flatMap_singles_parse, hroot,
    reading_startText hvalid (separated_steps steps) (apart_steps false steps), List.map_map]
  exact List.map_congr_left fun step hstep => (h step hstep).segment_piece (hfits step hstep)

/-! ## Following the steps -/

section Walks

variable {s : Store} {h : Handle} {u v w : Value} {step : ChildStep} {steps more : List ChildStep}

/-- A step leads to a child. -/
theorem ChildStep.Leads.mem_children (hstep : step.Leads s h v) : v ∈ (s.cell h).children := by
  have hmember : ∀ {name : String},
      (∃ members, s.cell h = .object members ∧ members.get? name = some v) →
        v ∈ (s.cell h).children := by
    rintro name ⟨members, hcell, hget⟩
    rw [hcell]
    exact Json.Members.mem_values_of_get? hget
  have helement : ∀ {i : Nat}, (∃ items, s.cell h = .array items ∧ items[i]? = some v) →
      v ∈ (s.cell h).children := by
    rintro i ⟨items, hcell, hitem⟩
    rw [hcell]
    exact List.mem_of_getElem? hitem
  cases step with
  | word name => exact hmember hstep
  | quoted name => exact hmember hstep
  | key name => exact hmember hstep
  | index i => exact helement hstep
  | dottedIndex i => exact helement hstep

theorem ChildStep.Leads.fits (hindexable : Indexable s) (hstep : step.Leads s h v) :
    step.Fits := by
  have helement : ∀ {i : Nat}, (∃ items, s.cell h = .array items ∧ items[i]? = some v) →
      i < 2 ^ 63 := by
    rintro i ⟨items, hcell, hitem⟩
    obtain ⟨hlt, -⟩ := List.getElem?_eq_some_iff.mp hitem
    exact Nat.lt_of_lt_of_le hlt (hindexable h items hcell)
  cases step with
  | index i => exact helement hstep
  | dottedIndex i => exact helement hstep
  | _ => trivial

theorem Walks.fits (hindexable : Indexable s) (hwalk : Walks s u steps v) :
    ∀ step ∈ steps, step.Fits := by
  induction hwalk with
  | nil v => exact fun _ hmem => absurd hmem List.not_mem_nil
  | cons hstep _ ih =>
    intro step hmem
    rcases List.mem_cons.mp hmem with rfl | hmem
    · exact hstep.fits hindexable
    · exact ih step hmem

theorem Walks.of_append (hwalk : Walks s u (steps ++ more) w) :
    ∃ v, Walks s u steps v ∧ Walks s v more w := by
  -- on the steps; their start moves down with them
  induction steps generalizing u with
  | nil => exact ⟨u, .nil u, hwalk⟩
  | cons step steps ih =>
    cases hwalk with
    | cons hstep hrest =>
      obtain ⟨v, hfirst, hmore⟩ := ih hrest
      exact ⟨v, .cons hstep hfirst, hmore⟩

/-- Steps lead below a container. -/
theorem Walks.transGen {g : Handle} (hwalk : Walks s (.container g) steps (.container h))
    (hne : steps ≠ []) (hsize : h.index < s.size) : Relation.TransGen s.Child g h := by
  induction steps generalizing g with
  | nil => exact absurd rfl hne
  | cons step steps ih =>
    cases hwalk with
    | cons hstep hrest =>
      cases hrest with
      | nil => exact .single ⟨hsize, hstep.mem_children⟩
      | cons hnext hmore =>
        -- the container in between holds something, so it is one of the store
        have hchild : s.Child g _ :=
          ⟨Store.lt_size_of_mem_children hnext.mem_children, hstep.mem_children⟩
        exact .head hchild (ih (.cons hnext hmore) (List.cons_ne_nil _ _))

/-- In an acyclic document steps never lead back to where they started. -/
theorem Walks.not_same (hacyclic : s.AcyclicFrom h) (hwalk : Walks s (.container h) steps v)
    (hne : steps ≠ []) : v.same (.container h) = false := by
  cases v with
  | container g =>
    -- ending at the same handle closes a cycle
    refine beq_false_of_ne ?_
    rintro rfl
    have hsize : g.index < s.size := by
      cases hwalk with
      | nil => exact absurd rfl hne
      | cons hstep _ => exact Store.lt_size_of_mem_children hstep.mem_children
    exact hacyclic g .refl (hwalk.transGen hne hsize)
  | _ => rfl

/-- Below an acyclic container the document is acyclic. -/
theorem Walks.acyclicFrom {g : Handle} (hacyclic : s.AcyclicFrom h)
    (hwalk : Walks s (.container h) steps (.container g)) : s.AcyclicFrom g := by
  intro k hreach hcycle
  have hbelow : Relation.TransGen s.Child g k := Relation.TransGen.trans_right hreach hcycle
  have hsize : g.index < s.size := Store.lt_size_of_transGen hbelow
  by_cases hne : steps = []
  · subst hne
    cases hwalk
    exact hacyclic k hreach hcycle
  · have hdown : s.Reaches h g := (hwalk.transGen hne hsize).to_reflTransGen
    exact hacyclic k (hdown.trans hreach) hcycle

/-! ## Running the segments -/

/-- A step that is read as a name is taken by a walk along that name. -/
theorem ChildStep.Leads.stepName (hstep : step.Leads s h v) (hfits : step.Fits) {name : String}
    (hsegment : step.segment = .plain [name]) :
    s.stepName (.container h) name = .ok (some v) := by
  have hmember : ∀ {n : String},
      (∃ members, s.cell h = .object members ∧ members.get? n = some v) → n = name →
        s.stepName (.container h) name = .ok (some v) := by
    rintro n ⟨members, hcell, hget⟩ rfl
    simp only [Store.stepName, hcell, hget]
  cases step with
  | word n => exact hmember hstep (by simpa [ChildStep.segment] using hsegment)
  | quoted n => exact hmember hstep (by simpa [ChildStep.segment] using hsegment)
  | key n => cases hsegment
  | index i => cases hsegment
  | dottedIndex i =>
    obtain ⟨items, hcell, hitem⟩ := hstep
    obtain rfl : String.ofList (natText i) = name := by
      simpa [ChildStep.segment] using hsegment
    -- the name is all digits, so an array reads it as an index, and as the one that was written
    have hinteger : isInteger (natText i) = true := by
      have hempty : (natText i).isEmpty = false :=
        List.isEmpty_eq_false_iff.mpr (natText_ne_nil i)
      have hdigits : (natText i).all Text.isDigit = true :=
        List.all_eq_true.mpr fun c hc => isDigit_of_isDigit (isDigit_of_mem_natText hc)
      rw [isInteger, hempty, hdigits]
      rfl
    have hindex : Store.readIndex (natText i) = i := by
      have hmax : i ≤ Store.maxIndex := Nat.le_of_lt (Nat.lt_trans hfits (by decide))
      rw [Store.readIndex, readNat?_natText]
      exact Nat.min_eq_left hmax
    simp only [Store.stepName, hcell, String.toList_ofList, hinteger, hindex, hitem, if_true]

/-- A segment of names walks along the steps that it was read from. -/
theorem walk_of_walks {names : List String}
    (hsegments : steps.map ChildStep.segment = names.map fun n => Segment.plain [n])
    (hfits : ∀ step ∈ steps, step.Fits) (hwalk : Walks s u steps v) :
    s.walk u names = .ok (some v) := by
  induction steps generalizing u names with
  | nil =>
    obtain rfl : names = [] := List.map_eq_nil_iff.mp hsegments.symm
    cases hwalk
    rfl
  | cons step steps ih =>
    cases names with
    | nil => cases hsegments
    | cons name names =>
      obtain ⟨hsegment, hrest⟩ := List.cons.inj hsegments
      cases hwalk with
      | cons hstep hmore =>
        have hname := hstep.stepName (hfits step List.mem_cons_self) hsegment
        have hwalk' := ih hrest (fun t ht => hfits t (List.mem_cons_of_mem step ht)) hmore
        rw [Store.walk, hname]
        exact hwalk'

/-- In an acyclic document such a walk is a hit. -/
theorem navigate_of_walks {names : List String}
    (hsegments : steps.map ChildStep.segment = names.map fun n => Segment.plain [n])
    (hfits : ∀ step ∈ steps, step.Fits) (hacyclic : s.AcyclicFrom h) (hne : steps ≠ [])
    (hwalk : Walks s (.container h) steps v) :
    s.navigate names (.container h) = .ok (some v) := by
  rw [Store.navigate, walk_of_walks hsegments hfits hwalk]
  simp only [bind, Except.bind, pure, Except.pure, Option.filter_some,
    hwalk.not_same hacyclic hne, Bool.not_false, if_true]

/-- A bracketed step finds the child that it leads to. -/
theorem ChildStep.Leads.select (hstep : step.Leads s h v) (hfits : step.Fits)
    (hacyclic : s.AcyclicFrom h) {selector : Selector} (hsegment : step.segment = .array selector) :
    s.select selector (.container h) = .ok [v] := by
  cases step with
  | word n => cases hsegment
  | quoted n => cases hsegment
  | dottedIndex i => cases hsegment
  | key n =>
    obtain rfl := Segment.array.inj hsegment
    -- a key is looked up like the bare name
    have hwalk : Walks s (.container h) [.word n] v := .cons hstep (.nil v)
    have hhit : s.navigate [n] (.container h) = .ok (some v) := by
      refine navigate_of_walks ?_ ?_ hacyclic (List.cons_ne_nil _ _) hwalk
      · rfl
      · simp [ChildStep.Fits]
    simp [Store.select, Value.isContainer, Value.handle?, hhit, Except.map]
  | index i =>
    obtain rfl := Segment.array.inj hsegment
    obtain ⟨items, hcell, hitem⟩ := hstep
    have hempty : items.isEmpty = false := by
      rw [List.isEmpty_eq_false_iff]
      rintro rfl
      cases hitem
    have hresolve : Slice.resolve items.length (Int64.ofNat i) = i := by
      have hint : (Int64.ofNat i).toInt = i := Int64.toInt_ofNat_of_lt hfits
      rw [Slice.resolve_of_nonneg (by rw [hint]; exact Int.natCast_nonneg i), hint]
      rfl
    have hpick : Slice.pick items (.index (Int64.ofNat i)) = .ok [v] := by
      simp only [Slice.pick, hresolve, hitem]
    simp [Store.select, Value.isContainer, Value.handle?, Store.children, hcell, Cell.children,
      Slice.select, hempty, Slice.pickAll, hpick, bind, Except.bind, pure, Except.pure]

theorem runSegments_cons_of_apply {first : Segment} {segments : List Segment}
    (hkind : ∀ fragment, first ≠ .unrecognized fragment) (happly : s.apply first u = .ok [w]) :
    s.runSegments (first :: segments) [u] = s.runSegments segments [w] := by
  have hall : s.applyAll first [u] = .ok [w] := by
    simp [Store.applyAll, happly, bind, Except.bind, pure, Except.pure]
  cases first with
  | unrecognized fragment => exact absurd rfl (hkind fragment)
  | _ => simp [Store.runSegments, hall, bind, Except.bind]

/-- A segment finds what the steps lead to that it was read from. -/
theorem apply_of_walks {first : Segment} (hsegments : steps.map ChildStep.segment = first.singles)
    (hfits : ∀ step ∈ steps, step.Fits) (hacyclic : s.AcyclicFrom h) (hne : steps ≠ [])
    (hwalk : Walks s (.container h) steps v) :
    s.apply first (.container h) = .ok [v] ∧ ∀ fragment, first ≠ .unrecognized fragment := by
  -- a segment that is no row of names was read from a single step
  have hsingle : ∀ {t : Segment}, steps.map ChildStep.segment = [t] →
      ∃ step : ChildStep, step.segment = t ∧ step.Fits ∧ step.Leads s h v := by
    intro t ht
    obtain ⟨step, rfl, hsegment⟩ := List.map_eq_singleton_iff.mp ht
    cases hwalk with
    | cons hstep hrest =>
      cases hrest
      exact ⟨step, hsegment, hfits step List.mem_cons_self, hstep⟩
  cases first with
  | plain names =>
    refine ⟨?_, by simp⟩
    rw [Store.apply, navigate_of_walks hsegments hfits hacyclic hne hwalk]
    rfl
  | array selector =>
    obtain ⟨step, hsegment, hstepFits, hstep⟩ := hsingle hsegments
    exact ⟨hstep.select hstepFits hacyclic hsegment, by simp⟩
  | _ =>
    obtain ⟨step, hsegment, -⟩ := hsingle hsegments
    cases step <;> cases hsegment

/-- Segments that are read from steps find what the steps lead to, whichever of the names one
segment takes together. -/
theorem runSegments_of_walks {segments : List Segment} (hplain : .plain [] ∉ segments)
    (hsegments : segments.flatMap Segment.singles = steps.map ChildStep.segment)
    (hfits : ∀ step ∈ steps, step.Fits)
    (hacyclic : ∀ g, u = .container g → s.AcyclicFrom g) (hwalk : Walks s u steps v) :
    s.runSegments segments [u] = .ok [v] := by
  -- on the segments: each has taken some of the steps, and leaves one value to start from
  induction segments generalizing u steps with
  | nil =>
    obtain rfl : steps = [] := List.map_eq_nil_iff.mp hsegments.symm
    cases hwalk
    rfl
  | cons first segments ih =>
    rw [List.flatMap_cons] at hsegments
    obtain ⟨front, back, rfl, hfront, hback⟩ := List.map_eq_append_iff.mp hsegments.symm
    have hne : front ≠ [] := by
      rintro rfl
      cases first with
      | plain names =>
        obtain rfl : names = [] := List.map_eq_nil_iff.mp hfront.symm
        exact hplain List.mem_cons_self
      | _ => cases hfront
    obtain ⟨w, hfirst, hrest⟩ := hwalk.of_append
    obtain ⟨g, rfl⟩ : ∃ g, u = .container g := by
      cases hfirst with
      | nil => exact absurd rfl hne
      | cons _ _ => exact ⟨_, rfl⟩
    have hroot : s.AcyclicFrom g := hacyclic g rfl
    obtain ⟨happly, hkind⟩ := apply_of_walks hfront
      (fun step hstep => hfits step (List.mem_append_left _ hstep)) hroot hne hfirst
    rw [runSegments_cons_of_apply hkind happly]
    refine ih (fun hmem => hplain (List.mem_cons_of_mem _ hmem)) hback.symm
      (fun step hstep => hfits step (List.mem_append_right _ hstep)) ?_ hrest
    rintro k rfl
    exact hfirst.acyclicFrom hroot

/-- In an acyclic document whose arrays lie in memory, the path of a row of steps finds exactly
the value that they lead to. -/
theorem find_childSteps (hacyclic : s.AcyclicFrom h) (hindexable : Indexable s)
    (hwritable : ∀ step ∈ steps, step.Writable) (hne : steps ≠ [])
    (hwalk : Walks s (.container h) steps v) :
    s.find (.container h) (stepsPath steps) = .ok [v] := by
  have hfits : ∀ step ∈ steps, step.Fits := hwalk.fits hindexable
  have hsegments := flatMap_singles_parse_stepsPath hwritable hfits
  have hpath : ¬(stepsPath steps = "" ∨ stepsPath steps = ".") := by
    -- these two paths have no segments, but the steps have
    have hnone : parse "" = [] ∧ parse "." = [] := by decide +kernel
    have hsome : steps.map ChildStep.segment ≠ [] := by simpa using hne
    rintro (heq | heq)
    · rw [heq, hnone.1] at hsegments
      exact hsome hsegments.symm
    · rw [heq, hnone.2] at hsegments
      exact hsome hsegments.symm
  have hcontainer : (!(Value.container h).isContainer) = false := rfl
  rw [Store.find, if_neg hpath, hcontainer, if_neg Bool.false_ne_true]
  refine runSegments_of_walks (plain_nil_notMem_parse _) hsegments hfits ?_ hwalk
  rintro g ⟨⟩
  exact hacyclic

/-- Two ways to a shared array, past a key and a name that are full of marks. -/
theorem find_childSteps_shared :
    let s : Store := ⟨#[.object [("x.*[y", .container ⟨1⟩), ("(b)", .container ⟨1⟩)],
      .array [.bool true, .container ⟨2⟩], .object [("7", .integer 5)]]⟩
    s.AcyclicFrom ⟨0⟩ ∧ Indexable s ∧
      s.find (.container ⟨0⟩) (stepsPath [.key "x.*[y", .dottedIndex 1, .word "7"]) =
        .ok [.integer 5] ∧
      s.find (.container ⟨0⟩) (stepsPath [.quoted "(b)", .index 1]) = .ok [.container ⟨2⟩] := by
  intro s
  have hcell : ∀ i, s.cell ⟨i + 3⟩ = .array [] := fun _ => rfl
  have hacyclic : s.AcyclicFrom ⟨0⟩ := by
    refine Store.acyclicFrom_of_index_lt (fun g h hchild => ?_) _
    obtain ⟨hlt, hmem⟩ := hchild
    rcases g with ⟨_ | _ | _ | i⟩
    case succ.succ.succ => simp [hcell, Cell.children] at hmem
    all_goals simp_all [s, Store.cell, Cell.children]
  have hindexable : Indexable s := by
    intro h items hitems
    rcases h with ⟨_ | _ | _ | i⟩
    · cases hitems
    · rw [← Cell.array.inj hitems]
      decide
    · cases hitems
    · rw [← Cell.array.inj ((hcell i).symm.trans hitems)]
      decide
  refine ⟨hacyclic, hindexable, ?_, ?_⟩
  · refine find_childSteps hacyclic hindexable ?_ (List.cons_ne_nil _ _) ?_
    · simp [ChildStep.Writable, isBareChar, Char.isAlphanum]
    · exact .cons ⟨_, rfl, rfl⟩ (.cons ⟨_, rfl, rfl⟩ (.cons ⟨_, rfl, rfl⟩ (.nil _)))
  · refine find_childSteps hacyclic hindexable ?_ (List.cons_ne_nil _ _) ?_
    · simp [ChildStep.Writable]
    · exact .cons ⟨_, rfl, rfl⟩ (.cons ⟨_, rfl, rfl⟩ (.nil _))

end Walks

end DocQuery.Query
