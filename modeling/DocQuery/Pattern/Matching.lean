import DocQuery.Pattern.Basic

/-!
# Matching

A matcher works on sets of places in a text.  `advance` takes the places at which a pattern
may start to those at which it may end.  Repetition goes on until no new place turns up, so a
text of `n` characters needs at most `n + 1` rounds however large the counts are.

`occursIn` asks whether a pattern covers any stretch of a text, `matchesAll` whether it covers
the whole text.
-/

namespace DocQuery.Pattern

/-! ## Sets of places -/

/-- The places of either set, each once. -/
def joinPlaces (s t : List Nat) : List Nat := s ++ t.filter (!s.contains ·)

/-- `f` applied `n` times to `s`; once `f` changes nothing more applications change
nothing either. -/
def times (f : List Nat → List Nat) : Nat → List Nat → List Nat
  | 0, s => s
  | n + 1, s =>
    let t := f s
    if t == s then s else times f n t

/-- `seen` with all places reached from `fresh` by at most `n` applications of `f`.  Only
places that have not been seen before lead on, and once there is none there never will be. -/
def reach (f : List Nat → List Nat) : (n : Nat) → (fresh seen : List Nat) → List Nat
  | 0, _, seen => seen
  | n + 1, fresh, seen =>
    match (f fresh).filter (!seen.contains ·) with
    | [] => seen
    | more => reach f n more (seen ++ more)

/-- `s` with all places reached from it by at most `n` applications of `f`. -/
def upTo (f : List Nat → List Nat) (n : Nat) (s : List Nat) : List Nat := reach f n s s

/-! ## The matcher -/

/-- The places at which `p` may end when it starts at a place of `s`. -/
def advance (text : Array Char) : Pattern → List Nat → List Nat
  | empty, s => s
  | one set, s => (s.filter fun i => text[i]?.any set.contains).map (· + 1)
  | assertion a, s => s.filter fun i => a.holds (before text i) text[i]?
  | group _ p, s => advance text p s
  | concat p q, s => advance text q (advance text p s)
  | choice p q, s => joinPlaces (advance text p s) (advance text q s)
  | repetition p least most _, s =>
    let s := times (advance text p) least s
    match most with
    | none => upTo (advance text p) (text.size + 1) s
    | some most => upTo (advance text p) (most - least) s

/-- Whether `p` covers some stretch of the text. -/
def occursIn (p : Pattern) (text : List Char) : Bool :=
  let text := text.toArray
  !(advance text p (List.range (text.size + 1))).isEmpty

/-- Whether `p` covers the whole text. -/
def matchesAll (p : Pattern) (text : List Char) : Bool :=
  let text := text.toArray
  (advance text p [0]).contains text.size

/-! ## Small facts -/

theorem mem_joinPlaces {i : Nat} {s t : List Nat} : i ∈ joinPlaces s t ↔ i ∈ s ∨ i ∈ t := by
  simp only [joinPlaces, List.mem_append, List.mem_filter, Bool.not_eq_true', List.contains_eq_mem,
    decide_eq_false_iff_not]
  by_cases h : i ∈ s <;> simp [h]

theorem advance_concat (text : Array Char) (p q : Pattern) (s : List Nat) :
    advance text (concat p q) s = advance text q (advance text p s) := rfl

theorem mem_advance_choice {text : Array Char} {p q : Pattern} {s : List Nat} {i : Nat} :
    i ∈ advance text (choice p q) s ↔ i ∈ advance text p s ∨ i ∈ advance text q s := by
  simp [advance, mem_joinPlaces]

end DocQuery.Pattern
