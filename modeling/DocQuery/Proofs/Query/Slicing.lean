import Mathlib
import DocQuery.Proofs.Path.Row
import DocQuery.Query.Find

/-!
# What Slices Select

A bound of a range is brought into the list: a number below zero counts from the end, and one that
lies outside means the nearer end.  A single index is one of the two numbers of a position.  A list
of pieces selects what its pieces select, one after the other, unless one of its indices lies past
the end; the first one that does is reported.

In a path, numbers are written in decimal with any number of digits.  An index below the array is
not reported but finds the first element, because it is brought into the array like a bound.  A
bound that does not fit 64 bits counts as missing, which is as good as clamping it except for a
start that is too large and a stop that is too small.

## Main definitions

- `Slice.clamp`, `Slice.rangeStart`, `Slice.rangeStop`: the positions that bounds mean
- `Slice.Selects`: what a single piece selects
- `Slice.resolveChecked?`: positions computed with integers of 64 bits
- `Store.indexPath`, `Store.rangePath`: an index and a range as paths

## Main statements

- `Slice.select_pieces`: what a list of pieces selects, and when it fails
- `Store.find_indexPath`, `Store.find_rangePath`: what an index and a range find in an array
-/

namespace DocQuery

open DocQuery.Decimal DocQuery.Path DocQuery.Text

namespace Slice

variable {α : Type} {items : List α} {piece : SlicePiece} {pieces : List SlicePiece} {n : Int64}

/-! ## Positions -/

/-- The position that a bound means in a list of `length` elements: below zero it counts from the
end, and outside of the list it means the nearer end. -/
def clamp (length : Nat) (bound : Int) : Nat :=
  (min (if bound < 0 then max 0 (length + bound) else bound) length).toNat

/-- Where a range starts: without a bound, at the start of the list. -/
def rangeStart (length : Nat) : Option Int → Nat
  | none => 0
  | some bound => clamp length bound

/-- Where a range stops: without a bound, at the end of the list. -/
def rangeStop (length : Nat) : Option Int → Nat
  | none => length
  | some bound => clamp length bound

/-- The position that a number means, computed with integers of 64 bits; nothing if one of the
numbers on the way does not fit. -/
def resolveChecked? (length : Nat) (n : Int64) : Option Nat :=
  (toInt64? length).bind fun count =>
    (if n.toInt < 0 then toInt64? (count.toInt + n.toInt) else some n).map fun position =>
      (max 0 position.toInt).toNat

theorem min_resolve (length : Nat) (n : Int64) :
    min (resolve length n) length = clamp length n.toInt := by
  unfold resolve clamp
  split <;> omega

/-- The numbers from -2⁶³ up to, but not including, 2⁶³ fit 64 bits, and no others do. -/
theorem map_toInt_toInt64? (m : Int) :
    (toInt64? m).map Int64.toInt = if -2 ^ 63 ≤ m ∧ m < 2 ^ 63 then some m else none := by
  have hmin : Int64.minValue.toInt = -2 ^ 63 := by decide
  have hmax : Int64.maxValue.toInt = 2 ^ 63 - 1 := by decide
  split
  · next hfits =>
    have hsome : toInt64? m = some (Int64.ofInt m) := if_pos (by omega)
    rw [hsome, Option.map_some, toInt_of_toInt64? hsome]
  · next hwide =>
    have hnone : toInt64? m = none := if_neg (by omega)
    rw [hnone, Option.map_none]

theorem exists_toInt64? {m : Int} (hlow : -2 ^ 63 ≤ m) (hhigh : m < 2 ^ 63) :
    ∃ i, toInt64? m = some i ∧ i.toInt = m := by
  have hfits := map_toInt_toInt64? m
  rw [if_pos ⟨hlow, hhigh⟩] at hfits
  exact Option.map_eq_some_iff.mp hfits

/-- No sum leaves the 64 bits, as long as the length of the list fits them. -/
theorem resolveChecked?_eq {length : Nat} (hlength : length < 2 ^ 63) (n : Int64) :
    resolveChecked? length n = some (resolve length n) := by
  obtain ⟨count, hcount, hvalue⟩ := exists_toInt64? (m := length) (by omega) (by omega)
  have hlow := Int64.le_toInt n
  rw [resolveChecked?, hcount, Option.bind_some, hvalue, resolve]
  split
  · next hneg =>
    obtain ⟨sum, hsum, hsumValue⟩ := exists_toInt64? (m := length + n.toInt) (by omega) (by omega)
    rw [hsum, Option.map_some, hsumValue]
    congr 1
    omega
  · next hnonneg => rw [Option.map_some, max_eq_right (Int.not_lt.mp hnonneg)]

/-- A bound before the start of the list means its start. -/
theorem clamp_of_le {length : Nat} {bound : Int} (h : bound ≤ -length) :
    clamp length bound = 0 := by
  unfold clamp
  split <;> omega

/-- A bound behind the end of the list means its end. -/
theorem clamp_of_ge {length : Nat} {bound : Int} (h : length ≤ bound) :
    clamp length bound = length := by
  unfold clamp
  split <;> omega

section WideBounds

variable {length : Nat} (hlength : length < 2 ^ 63)

include hlength

/-- A start that does not fit 64 bits is left out.  One that is too small means the start of the
list all the same, but one that is too large does not. -/
theorem rangeStart_bind_toInt64? (bound : Option Int) :
    rangeStart length ((bound.bind toInt64?).map Int64.toInt) =
      rangeStart length (bound.filter (· < 2 ^ 63)) := by
  cases bound with
  | none => rfl
  | some m =>
    rw [Option.bind_some, map_toInt_toInt64?, Option.filter_some]
    simp only [decide_eq_true_eq]
    by_cases hhigh : m < 2 ^ 63
    · rw [if_pos hhigh]
      by_cases hlow : -2 ^ 63 ≤ m
      · rw [if_pos ⟨hlow, hhigh⟩]
      · rw [if_neg fun h => hlow h.1, rangeStart, rangeStart, clamp_of_le (by omega)]
    · rw [if_neg hhigh, if_neg fun h => hhigh h.2]

/-- A stop that does not fit 64 bits is left out.  One that is too large means the end of the list
all the same, but one that is too small does not. -/
theorem rangeStop_bind_toInt64? (bound : Option Int) :
    rangeStop length ((bound.bind toInt64?).map Int64.toInt) =
      rangeStop length (bound.filter (-2 ^ 63 ≤ ·)) := by
  cases bound with
  | none => rfl
  | some m =>
    rw [Option.bind_some, map_toInt_toInt64?, Option.filter_some]
    simp only [decide_eq_true_eq]
    by_cases hlow : -2 ^ 63 ≤ m
    · rw [if_pos hlow]
      by_cases hhigh : m < 2 ^ 63
      · rw [if_pos ⟨hlow, hhigh⟩]
      · rw [if_neg fun h => hhigh h.2, rangeStop, rangeStop, clamp_of_ge (by omega)]
    · rw [if_neg hlow, if_neg fun h => hlow h.1]

end WideBounds

/-! ## Single pieces -/

/-- What a piece selects.  A position has two numbers, counted from the start and from the end of
the list; a range is the part of the list between its bounds. -/
inductive Selects (items : List α) : SlicePiece → List α → Prop where
  | index {n : Int64} (i : Nat) (hi : i < items.length)
      (hn : n.toInt = i ∨ n.toInt = i - items.length) : Selects items (.index n) [items[i]]
  | range (start stop : Option Int64) :
      Selects items (.range start stop)
        (items.extract (rangeStart items.length (start.map Int64.toInt))
          (rangeStop items.length (stop.map Int64.toInt)))

theorem drop_take_eq_extract (items : List α) (i j : Nat) :
    (items.take j).drop i = items.extract (min i items.length) (min j items.length) := by
  rw [List.drop_take, List.extract_eq_take_drop]
  rcases Nat.le_total i items.length with hi | hi
  · rw [Nat.min_eq_left hi, List.take_eq_take_iff, List.length_drop]
    omega
  · rw [Nat.min_eq_right hi, List.drop_eq_nil_of_le hi, List.drop_length, List.take_nil,
      List.take_nil]

/-- A range selects what lies between its bounds. -/
theorem pick_range (items : List α) (start stop : Option Int64) :
    pick items (.range start stop) =
      .ok (items.extract (rangeStart items.length (start.map Int64.toInt))
        (rangeStop items.length (stop.map Int64.toInt))) := by
  have hstart : min ((start.map (resolve items.length)).getD 0) items.length =
      rangeStart items.length (start.map Int64.toInt) := by
    cases start with
    | none => exact Nat.zero_min _
    | some n => exact min_resolve items.length n
  have hstop : min ((stop.map (resolve items.length)).getD items.length) items.length =
      rangeStop items.length (stop.map Int64.toInt) := by
    cases stop with
    | none => exact Nat.min_self _
    | some n => exact min_resolve items.length n
  rw [pick, drop_take_eq_extract, hstart, hstop]

/-- Both numbers of a position select the element there. -/
theorem pick_index {i : Nat} (hi : i < items.length)
    (hn : n.toInt = i ∨ n.toInt = i - items.length) : pick items (.index n) = .ok [items[i]] := by
  have hresolve : resolve items.length n = i := by
    rcases hn with hn | hn
    · rw [resolve_of_nonneg (by omega)]
      omega
    · rw [resolve_of_neg (by omega)]
      omega
  rw [pick, hresolve, List.getElem?_eq_getElem hi]

/-- An index past the end is an error. -/
theorem pick_index_past (hn : items.length ≤ n.toInt) :
    pick items (.index n) = .error (.indexOutOfRange n.toInt items.length) := by
  have hresolve : items.length ≤ resolve items.length n := by
    rw [resolve_of_nonneg (by omega)]
    omega
  rw [pick, List.getElem?_eq_none hresolve]

theorem Selects.pick_eq {part : List α} (hselects : Selects items piece part) :
    pick items piece = .ok part := by
  cases hselects with
  | index i hi hn => exact pick_index hi hn
  | range start stop => exact pick_range items start stop

/-! ## Lists of pieces -/

/-- The numbers of the single indices among the pieces, in their order. -/
def indices : List SlicePiece → List Int64
  | [] => []
  | .index n :: pieces => n :: indices pieces
  | .range _ _ :: pieces => indices pieces

/-- The first of the single indices that lies past the end of a list. -/
def firstPast? (length : Nat) (pieces : List SlicePiece) : Option Int64 :=
  (indices pieces).find? fun n => (length : Int) ≤ n.toInt

theorem pickAll_cons {part : List α} (hselects : Selects items piece part)
    (pieces : List SlicePiece) :
    pickAll items (piece :: pieces) = (pickAll items pieces).map (part ++ ·) := by
  rw [pickAll, hselects.pick_eq]
  cases pickAll items pieces <;> rfl

/-- An index that is not below the list either lies past its end or is a number of a position. -/
theorem exists_selects_index (hlow : -(items.length : Int) ≤ n.toInt)
    (hhigh : n.toInt < items.length) :
    ∃ part, Selects items (.index n) part := by
  rcases lt_or_ge n.toInt 0 with hneg | hnonneg
  · exact ⟨_, .index (items.length + n.toInt).toNat (by omega) (.inr (by omega))⟩
  · exact ⟨_, .index n.toInt.toNat (by omega) (.inl (by omega))⟩

theorem select_of_ne_nil (hne : items ≠ []) (pieces : List SlicePiece) :
    select items pieces = pickAll items pieces := by
  rw [select, List.isEmpty_eq_false_iff.mpr hne, if_neg Bool.false_ne_true]

/-- A single range selects its part also from an empty list. -/
theorem select_range (items : List α) (start stop : Option Int64) :
    select items [.range start stop] =
      .ok (items.extract (rangeStart items.length (start.map Int64.toInt))
        (rangeStop items.length (stop.map Int64.toInt))) := by
  by_cases hne : items = []
  · subst hne
    rw [List.extract_eq_take_drop, List.drop_nil, List.take_nil]
    rfl
  · rw [select_of_ne_nil hne, pickAll_cons (.range start stop), pickAll, Except.map,
      List.append_nil]

/-- Pieces whose indices are numbers of positions select one part each. -/
theorem exists_pickAll (hlow : ∀ n ∈ indices pieces, -(items.length : Int) ≤ n.toInt)
    (hhigh : ∀ n ∈ indices pieces, n.toInt < items.length) :
    ∃ parts, pieces.Forall₂ (Selects items) parts ∧ pickAll items pieces = .ok parts.flatten := by
  induction pieces with
  | nil => exact ⟨[], .nil, rfl⟩
  | cons piece pieces ih =>
    cases piece with
    | range start stop =>
      obtain ⟨parts, hparts, hall⟩ := ih hlow hhigh
      have hselects : Selects items (.range start stop) _ := .range start stop
      exact ⟨_ :: parts, .cons hselects hparts, by rw [pickAll_cons hselects, hall]; rfl⟩
    | index n =>
      rw [indices, List.forall_mem_cons] at hlow hhigh
      obtain ⟨part, hselects⟩ := exists_selects_index hlow.1 hhigh.1
      obtain ⟨parts, hparts, hall⟩ := ih hlow.2 hhigh.2
      exact ⟨part :: parts, .cons hselects hparts, by rw [pickAll_cons hselects, hall]; rfl⟩

/-- The first index past the end is reported, whatever was selected before. -/
theorem pickAll_of_firstPast? (hlow : ∀ n ∈ indices pieces, -(items.length : Int) ≤ n.toInt)
    (hpast : firstPast? items.length pieces = some n) :
    pickAll items pieces = .error (.indexOutOfRange n.toInt items.length) := by
  induction pieces with
  | nil => cases hpast
  | cons piece pieces ih =>
    cases piece with
    | range start stop =>
      rw [pickAll_cons (Selects.range start stop), ih hlow hpast]
      rfl
    | index m =>
      rw [indices, List.forall_mem_cons] at hlow
      rw [firstPast?, indices, List.find?_cons] at hpast
      by_cases hm : (items.length : Int) ≤ m.toInt
      · rw [decide_eq_true hm] at hpast
        cases hpast
        rw [pickAll, pick_index_past hm]
        rfl
      · rw [decide_eq_false hm] at hpast
        obtain ⟨part, hselects⟩ := exists_selects_index hlow.1 (Int.not_le.mp hm)
        rw [pickAll_cons hselects, ih hlow.2 hpast]
        rfl

/-- Nothing is selected from an empty list.  In any other list, if no index lies below it, the first
index past the end is reported with the length of the list; without one, each piece selects its
part, and the parts are put together in order.  No sum of a length and a number leaves the 64
bits. -/
theorem select_pieces (items : List α) (pieces : List SlicePiece) :
    (items = [] → select items pieces = .ok []) ∧
    (items ≠ [] → (∀ n ∈ indices pieces, -(items.length : Int) ≤ n.toInt) →
      match firstPast? items.length pieces with
      | some n => select items pieces = .error (.indexOutOfRange n.toInt items.length)
      | none => ∃ parts, pieces.Forall₂ (Selects items) parts ∧
          select items pieces = .ok parts.flatten) ∧
    (items.length < 2 ^ 63 →
      ∀ n, resolveChecked? items.length n = some (resolve items.length n)) := by
  refine ⟨?_, fun hne hlow => ?_, resolveChecked?_eq⟩
  · rintro rfl
    rfl
  · rw [select_of_ne_nil hne]
    split
    · next n hpast => exact pickAll_of_firstPast? hlow hpast
    · next hnone =>
      refine exists_pickAll hlow fun n hn => ?_
      have hpast := List.find?_eq_none.mp hnone n hn
      simpa using hpast

/-- Extreme bounds, an element that is selected more than once, and an index past the end behind
others that have been selected. -/
theorem select_pieces_extreme :
    let items := [10, 20, 30]
    let pieces := [.index (-3), .range (some Int64.minValue) (some Int64.maxValue),
      .range (some 2) (some (-2)), .index 1]
    let others := [.index 0, .range none none, .index 5]
    (∃ parts, List.Forall₂ (Selects items) pieces parts ∧
      select items pieces = .ok parts.flatten) ∧
    select items pieces = .ok [10, 10, 20, 30, 20] ∧
    select items others = .error (.indexOutOfRange 5 3) := by
  intro items pieces others
  have hlow : ∀ n ∈ indices pieces, -(items.length : Int) ≤ n.toInt :=
    List.forall_mem_cons.mpr ⟨by decide, List.forall_mem_singleton.mpr (by decide)⟩
  have hlow' : ∀ n ∈ indices others, -(items.length : Int) ≤ n.toInt :=
    List.forall_mem_cons.mpr ⟨by decide, List.forall_mem_singleton.mpr (by decide)⟩
  have hselect := (select_pieces items pieces).2.1 (by decide) hlow
  have hothers := (select_pieces items others).2.1 (by decide) hlow'
  have hnone : firstPast? items.length pieces = none := by decide +kernel
  have hpast : firstPast? items.length others = some 5 := by decide +kernel
  rw [hnone] at hselect
  rw [hpast] at hothers
  exact ⟨hselect, by decide +kernel, hothers⟩

end Slice

namespace Store

open DocQuery.Slice

variable {s : Store} {h : Handle} {items : List Value}

/-! ## Slices in paths -/

/-- A bracket with a list of indices and ranges finds in an array what the list selects. -/
theorem find_bracket_slices {body : List Char} {pieces : List SlicePiece} (hne : body ≠ [])
    (hclose : ']' ∉ body) (hread : segmentOf (bracket body) = .array (.slices pieces))
    (hcell : s.cell h = .array items) :
    s.find (.container h) (String.ofList (bracket body)) = Slice.select items pieces := by
  have hparse := parse_bracket hne hclose
  rw [hread] at hparse
  rw [find_of_parse_singleton hparse fun _ => nofun]
  simp only [apply, Store.select, Value.isContainer, Value.handle?, Option.isSome_some,
    Bool.not_true, Bool.false_eq_true, if_false, children, hcell, Cell.children]

/-- The path of a single index. -/
def indexPath (n : Int64) : String := String.ofList (bracket (intText n.toInt))

theorem find_indexPath_eq (hcell : s.cell h = .array items) (n : Int64) :
    s.find (.container h) (indexPath n) = Slice.select items [.index n] := by
  have hclose : ']' ∉ intText n.toInt := fun hmem => by
    rcases mem_intText hmem with hc | hc
    · exact absurd hc (by decide)
    · exact absurd hc (by decide)
  have hread := segmentOf_slices (List.cons_ne_nil (SlicePiece.index n) [])
  rw [List.map_singleton, join, SlicePiece.text] at hread
  exact find_bracket_slices (intText_ne_nil _) hclose hread hcell

/-- In an array with elements both numbers of a position find the element there, and every number
below these finds the first element.  The others, and only they, are reported. -/
theorem find_indexPath (hcell : s.cell h = .array items) (hne : items ≠ []) (n : Int64) :
    (∀ i (hi : i < items.length), n.toInt = i ∨ n.toInt = i - items.length →
      s.find (.container h) (indexPath n) = .ok [items[i]]) ∧
    (n.toInt < -items.length → s.find (.container h) (indexPath n) = .ok [items.head hne]) ∧
    ∀ e, s.find (.container h) (indexPath n) = .error e ↔
      items.length ≤ n.toInt ∧ e = .indexOutOfRange n.toInt items.length := by
  rw [find_indexPath_eq hcell, select_of_ne_nil hne]
  have hlength : 0 < items.length := List.length_pos_iff.mpr hne
  have hposition : ∀ i (hi : i < items.length), n.toInt = i ∨ n.toInt = i - items.length →
      pickAll items [.index n] = .ok [items[i]] := fun i hi hn => by
    rw [pickAll_cons (.index i hi hn)]
    rfl
  have hbelow : n.toInt < -items.length → pickAll items [.index n] = .ok [items.head hne] :=
    fun hn => by
      have hresolve : resolve items.length n = 0 := by
        rw [resolve_of_neg (by omega)]
        omega
      rw [pickAll, pick, hresolve, List.getElem?_eq_getElem hlength, List.head_eq_getElem]
      rfl
  refine ⟨hposition, hbelow, fun e => ⟨fun herror => ?_, ?_⟩⟩
  · -- a number that is not past the end finds something
    have hpast : items.length ≤ n.toInt := by
      by_contra hlt
      obtain hn | hn := lt_or_ge n.toInt (-items.length : Int)
      · rw [hbelow hn] at herror
        cases herror
      · obtain ⟨part, hselects⟩ := exists_selects_index hn (Int.not_le.mp hlt)
        rw [pickAll_cons hselects] at herror
        cases herror
    refine ⟨hpast, ?_⟩
    rw [pickAll, pick_index_past hpast] at herror
    cases herror
    rfl
  · rintro ⟨hn, rfl⟩
    rw [pickAll, pick_index_past hn]
    rfl

/-- The two numbers of a position, and the first number past the end. -/
theorem find_indexPath_both_ends :
    let s : Store := ⟨#[.array [.bool true, .integer 7]]⟩
    s.find (.container ⟨0⟩) "[0]" = .ok [.bool true] ∧
      s.find (.container ⟨0⟩) "[-2]" = .ok [.bool true] ∧
      s.find (.container ⟨0⟩) "[2]" = .error (.indexOutOfRange 2 2) := by
  intro s
  have hcell : s.cell ⟨0⟩ = .array [.bool true, .integer 7] := rfl
  have hne : [Value.bool true, .integer 7] ≠ [] := List.cons_ne_nil _ _
  have hpaths : indexPath 0 = "[0]" ∧ indexPath (-2) = "[-2]" ∧ indexPath 2 = "[2]" := by
    decide +kernel
  rw [← hpaths.1, ← hpaths.2.1, ← hpaths.2.2]
  exact ⟨(find_indexPath hcell hne 0).1 0 (by decide) (.inl rfl),
    (find_indexPath hcell hne (-2)).1 0 (by decide) (.inr rfl),
    ((find_indexPath hcell hne 2).2.2 _).mpr ⟨by decide, rfl⟩⟩

/-- An index before the start of an array is not reported. -/
theorem find_index_before_start :
    (⟨#[.array [.bool true, .integer 7]]⟩ : Store).find (.container ⟨0⟩) "[-3]" =
      .ok [.bool true] := by
  decide +kernel

/-- The path of a range. -/
def rangePath (start stop : Option Numeral) : String :=
  String.ofList (bracket (writtenRange start stop))

/-- In an array a range finds what lies between its bounds, each of them brought into the array,
however many digits it has.  But a start above all integers of 64 bits, and a stop below them, count
as missing. -/
theorem find_rangePath (hcell : s.cell h = .array items) (hlength : items.length < 2 ^ 63)
    (start stop : Option Numeral) :
    s.find (.container h) (rangePath start stop) =
      .ok (items.extract
        (rangeStart items.length ((start.map Numeral.value).filter (· < 2 ^ 63)))
        (rangeStop items.length ((stop.map Numeral.value).filter (-2 ^ 63 ≤ ·)))) := by
  have hclose : ']' ∉ writtenRange start stop := fun hmem => by
    rcases mem_writtenRange hmem with hc | hc | hc <;> exact absurd hc (by decide)
  rw [rangePath, find_bracket_slices (writtenRange_ne_nil start stop) hclose
    (segmentOf_writtenRange start stop) hcell, select_range, rangeStart_bind_toInt64? hlength,
    rangeStop_bind_toInt64? hlength]

/-- A start with zeros in front, and a stop beyond 64 bits. -/
theorem find_rangePath_long :
    let s : Store := ⟨#[.array [.bool true, .integer 7]]⟩
    [Value.bool true, .integer 7].length < 2 ^ 63 ∧
      s.find (.container ⟨0⟩) "[-00000000000000000001:9223372036854775808]" =
        .ok [.integer 7] := by
  intro s
  let start : Numeral :=
    ⟨true, "00000000000000000001".toList, by decide, List.all_eq_true.mp (by decide)⟩
  let stop : Numeral :=
    ⟨false, "9223372036854775808".toList, by decide, List.all_eq_true.mp (by decide)⟩
  have hpath : rangePath (some start) (some stop) =
      "[-00000000000000000001:9223372036854775808]" := by decide +kernel
  have hlength : [Value.bool true, .integer 7].length < 2 ^ 63 := by decide
  refine ⟨hlength, ?_⟩
  rw [← hpath, find_rangePath rfl hlength]
  decide +kernel

/-- A start above the integers of 64 bits does not mean the end of an array, and a stop below them
does not mean its start. -/
theorem find_range_beyond_int64 :
    let items : List Value := [.bool true, .integer 7]
    let s : Store := ⟨#[.array items]⟩
    s.find (.container ⟨0⟩) "[9223372036854775808:]" = .ok items ∧
      items.extract (rangeStart 2 (some (2 ^ 63))) (rangeStop 2 none) = [] ∧
      s.find (.container ⟨0⟩) "[:-9223372036854775809]" = .ok items ∧
      items.extract (rangeStart 2 none) (rangeStop 2 (some (-2 ^ 63 - 1))) = [] := by
  decide +kernel

end Store

end DocQuery
