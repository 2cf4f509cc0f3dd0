import Mathlib
import DocQuery.Edit.Write

/-!
# Where an Edit Stops

A write is refused for the kind of its parent and the shape of its key, and for nothing else.
Writes keep the kind of every value, so an edit stops at the first write that would have been
refused at its beginning, whatever was written in between and however the parents share their
contents.  All writes before that one have been carried out, and no other.

## Main definitions

- `Kind`: what a value is to a write
- `Kind.refusal?`: why no write under a key is possible

## Main statements

- `insert_eq_error_iff`: a write fails exactly if it is refused
- `kind_insert`: writes keep the kinds of values
- `putAll_stops_at_refusal`: how far an edit gets
-/

namespace DocQuery

open DocQuery.Edit DocQuery.Path

namespace Edit

/-- What a value is, as far as writing into it goes. -/
inductive Kind where
  | object
  | array
  /-- No container, but a value of the type with this name -/
  | scalar (typeName : String)
deriving DecidableEq

/-- Why nothing can be written under the key, if that is so: an object takes names only, an array
takes no name that is not made of digits, and any other value takes nothing. -/
def Kind.refusal? : Kind → Key → Option EditError
  | object, .name _ => none
  | object, key => some (.objectKey key)
  | array, .name name => if isInteger name.toList then none else some (.arrayKey name)
  | array, _ => none
  | scalar typeName, _ => some (.notContainer typeName)

/-- The kind of a container. -/
def cellKind : Cell → Kind
  | .object _ => .object
  | .array _ => .array

/-- A write into a container fails for the kind of the container and the shape of the key. -/
theorem writeCell_eq_error_iff {mode : Mode} {cell : Cell} {key : Key} {v : Value} {e : EditError} :
    writeCell mode cell key v = .error e ↔ (cellKind cell).refusal? key = some e := by
  cases cell with
  | object members => cases key <;> simp [writeCell, cellKind, Kind.refusal?]
  | array items =>
    cases key with
    | name name =>
      by_cases hdigits : isInteger name.toList = true <;>
        simp [writeCell, position?, cellKind, Kind.refusal?, hdigits, bind, Except.bind, pure,
          Except.pure]
    | _ =>
      simp [writeCell, position?, cellKind, Kind.refusal?, bind, Except.bind, pure, Except.pure]

/-- An object stays an object and an array stays an array. -/
theorem cellKind_writeCell {mode : Mode} {cell after : Cell} {key : Key} {v : Value}
    (h : writeCell mode cell key v = .ok after) : cellKind after = cellKind cell := by
  rcases exists_of_writeCell h with ⟨_, _, rfl, -, rfl⟩ | ⟨_, _, rfl, -, rfl⟩
  · rfl
  · rfl

end Edit

namespace Store

/-- The kind of a value. -/
def kind (s : Store) : Value → Kind
  | .container h => cellKind (s.cell h)
  | v => .scalar (s.typeName v)

variable {s t : Store} {mode : Mode} {w : Write}

/-! ## One write -/

/-- A write fails exactly if the kind of its parent refuses its key. -/
theorem insert_eq_error_iff {e : EditError} :
    s.insert mode w = .error e ↔ (s.kind w.parent).refusal? w.key = some e := by
  obtain ⟨parent, key, v⟩ := w
  cases parent with
  | container h =>
    rw [kind, ← @writeCell_eq_error_iff mode _ _ v]
    simp only [insert]
    cases writeCell mode (s.cell h) key v <;> simp [bind, Except.bind, pure, Except.pure]
  | _ => simp [insert, kind, Kind.refusal?]

/-- A write that is not refused succeeds. -/
theorem exists_insert_of_refusal?_eq_none (h : (s.kind w.parent).refusal? w.key = none) :
    ∃ t, s.insert mode w = .ok t := by
  cases hinsert : s.insert mode w with
  | ok t => exact ⟨t, rfl⟩
  | error e =>
    rw [insert_eq_error_iff.mp hinsert] at h
    cases h

/-- A write to a place where no container is changes nothing. -/
theorem cell_write (s : Store) (h g : Handle) (cell : Cell) :
    (s.write h cell).cell g = if g = h ∧ h.index < s.size then cell else s.cell g := by
  split
  · next hg => rw [hg.1, cell_write_self hg.2]
  · next hg =>
    by_cases heq : g = h
    · subst heq
      have hout : s.size ≤ g.index := Nat.le_of_not_lt fun hlt => hg ⟨rfl, hlt⟩
      rw [write, Array.setIfInBounds_eq_of_size_le hout]
    · exact cell_write_of_ne heq s cell

/-- A write keeps the kinds of all values, that of its parent included. -/
theorem kind_insert (hinsert : s.insert mode w = .ok t) (v : Value) : t.kind v = s.kind v := by
  cases v with
  | container g =>
    obtain ⟨h, cell, -, hcell, rfl⟩ := exists_of_insert hinsert
    rw [kind, kind, cell_write]
    split
    · next hg => rw [hg.1, cellKind_writeCell hcell]
    · rfl
  | _ => rfl

/-! ## Rows of writes -/

/-- Writes that succeed one after the other keep the kinds of all values. -/
theorem kind_foldlM_insert {ws : List Write}
    (h : ws.foldlM (fun u w => u.insert mode w) s = .ok t) (v : Value) : t.kind v = s.kind v := by
  induction ws generalizing s with
  | nil => cases h; rfl
  | cons w ws ih =>
    rw [List.foldlM_cons] at h
    cases hinsert : s.insert mode w with
    | error e => rw [hinsert] at h; cases h
    | ok u =>
      rw [hinsert] at h
      rw [ih h, kind_insert hinsert]

/-- The place of the first write of a row that the kinds of the parents refuse, or the length of
the row if there is none. -/
def firstRefused (s : Store) (ws : List Write) : Nat :=
  ws.findIdx fun w => ((s.kind w.parent).refusal? w.key).isSome

theorem firstRefused_congr (h : ∀ v, t.kind v = s.kind v) (ws : List Write) :
    t.firstRefused ws = s.firstRefused ws := by
  simp only [firstRefused, h]

/-- The kinds at the beginning decide how far a row of writes gets: the writes before the first
one that they refuse are carried out one after the other, and this one is why the row ends. -/
theorem runWrites_eq (s : Store) (mode : Mode) (ws : List Write) :
    (ws.take (s.firstRefused ws)).foldlM (fun u w => u.insert mode w) s =
        .ok (s.runWrites mode ws).store ∧
      (s.runWrites mode ws).failure? =
        ws[s.firstRefused ws]?.bind fun w => (s.kind w.parent).refusal? w.key := by
  -- on the writes; a write that succeeds keeps the kinds, so the others are judged as before
  induction ws generalizing s with
  | nil => exact ⟨rfl, rfl⟩
  | cons w ws ih =>
    cases hrefusal : (s.kind w.parent).refusal? w.key with
    | some e =>
      have hfirst : s.firstRefused (w :: ws) = 0 := by
        simp [firstRefused, List.findIdx_cons, hrefusal]
      rw [runWrites, insert_eq_error_iff.mpr hrefusal, hfirst]
      exact ⟨rfl, hrefusal.symm⟩
    | none =>
      obtain ⟨t, hinsert⟩ : ∃ t, s.insert mode w = .ok t :=
        exists_insert_of_refusal?_eq_none hrefusal
      have hkinds := kind_insert hinsert
      have hfirst : s.firstRefused (w :: ws) = t.firstRefused ws + 1 := by
        rw [firstRefused_congr hkinds]
        simp [firstRefused, List.findIdx_cons, hrefusal]
      obtain ⟨hstore, hfailure⟩ := ih t
      rw [runWrites, hinsert, hfirst, List.take_succ_cons, List.getElem?_cons_succ]
      constructor
      · rw [List.foldlM_cons, hinsert]
        exact hstore
      · rw [hfailure]
        simp only [hkinds]

/-- The writes of an edit take every parent in turn, and all pairs for each of them. -/
theorem writes_eq_product (parents : List Value) (pairs : List (Key × Value)) :
    writes parents pairs = (parents ×ˢ pairs).map fun (parent, key, v) => ⟨parent, key, v⟩ := by
  simp only [writes, SProd.sprod, List.product, List.map_flatMap, List.map_map]
  rfl

/-- What the kinds of the parents say to the keys is what they say to the writes. -/
theorem refusals_eq (s : Store) (parents : List Value) (pairs : List (Key × Value)) :
    ((parents.map s.kind) ×ˢ (pairs.map Prod.fst)).map (fun (kind, key) => kind.refusal? key) =
      (writes parents pairs).map fun w => (s.kind w.parent).refusal? w.key := by
  simp only [writes, SProd.sprod, List.product, List.map_flatMap, List.map_map, List.flatMap_map]
  rfl

/-- An edit whose parents cannot be looked up changes nothing.  Any other edit carries out the
writes of all pairs into all parents, parent after parent, up to the first pair of a kind and a key
that do not fit.  The kinds are those of the parents when they were found: so how far the edit gets,
and the error that it ends with, does not depend on what the containers hold, on the values or on
earlier writes.  The store afterwards is the one that the writes before the refused one lead to, and
in this store the refused write fails. -/
theorem putAll_stops_at_refusal (s : Store) (root : Value) (path : String) (mode : Mode)
    (pairs : List (Key × Value)) :
    let after := s.putAll root path mode pairs
    match s.find root path with
    | .error e => after = ⟨s, some (.lookup e)⟩
    | .ok parents =>
      let ws : List Write := (parents ×ˢ pairs).map fun (parent, key, v) => ⟨parent, key, v⟩
      let refusals := ((parents.map s.kind) ×ˢ (pairs.map Prod.fst)).map
        fun (kind, key) => kind.refusal? key
      let n := refusals.findIdx (·.isSome)
      (ws.take n).foldlM (fun u w => u.insert mode w) s = .ok after.store ∧
        after.failure? = refusals[n]?.join ∧
        ∀ e, after.failure? = some e →
          ∃ w, ws[n]? = some w ∧ after.store.insert mode w = .error e := by
  intro after
  split
  · next e hfind => simp only [after, putAll, hfind]
  · next parents hfind =>
    intro ws refusals n
    have hws : ws = writes parents pairs := (writes_eq_product parents pairs).symm
    have hrefusals : refusals = ws.map fun w => (s.kind w.parent).refusal? w.key := by
      rw [hws]
      exact refusals_eq s parents pairs
    have hn : n = s.firstRefused ws := by
      simp only [n, hrefusals, firstRefused, List.findIdx_map, Function.comp_def]
    have hafter : after = s.runWrites mode ws := by
      simp only [after, putAll, hfind, hws]
    obtain ⟨hstore, hfailure⟩ := runWrites_eq s mode ws
    clear_value ws refusals n
    rw [hafter, hn]
    refine ⟨hstore, ?_, fun e he => ?_⟩
    · rw [hfailure, hrefusals, List.getElem?_map]
      cases ws[s.firstRefused ws]? <;> rfl
    · obtain ⟨w, hw, hrefusal⟩ := Option.bind_eq_some_iff.mp (hfailure.symm.trans he)
      refine ⟨w, hw, insert_eq_error_iff.mpr ?_⟩
      -- the writes before have kept the kinds
      rw [kind_foldlM_insert hstore]
      exact hrefusal

/-- An edit of an object that is found twice, and of an array in between that refuses the second
pair: the object and the array have been written to before. -/
theorem putAll_stops_at_refusal_shared :
    let s : Store := ⟨#[.array [.container ⟨1⟩, .container ⟨2⟩, .container ⟨1⟩], .object [],
      .array [.null]]⟩
    let after := s.putAll (.container ⟨0⟩) "[*]" .replace
      [(.name "7", .bool true), (.name "k", .integer 1)]
    after.failure? = some (.arrayKey "k") ∧
      after.store.cells = #[.array [.container ⟨1⟩, .container ⟨2⟩, .container ⟨1⟩],
        .object [("7", .bool true), ("k", .integer 1)], .array [.null, .bool true]] := by
  intro s after
  have hstops := putAll_stops_at_refusal s (.container ⟨0⟩) "[*]" .replace
    [(.name "7", .bool true), (.name "k", .integer 1)]
  have hfind : s.find (.container ⟨0⟩) "[*]" =
      .ok [.container ⟨1⟩, .container ⟨2⟩, .container ⟨1⟩] := by decide +kernel
  simp only [hfind] at hstops
  obtain ⟨hstore, hfailure, -⟩ := hstops
  refine ⟨?_, ?_⟩
  · rw [hfailure]
    decide +kernel
  · have hcells := congrArg (Except.map Store.cells) hstore
    exact Except.ok.inj (hcells.symm.trans (by decide +kernel))

end Store

end DocQuery
