import Mathlib
import DocQuery.Query.Find
import DocQuery.Proofs.Path.Row
import DocQuery.Proofs.Pattern.RowSize
import DocQuery.Proofs.Pattern.Runs

/-!
# What Globs Stand For

A glob fits a key if the key can be written as the glob with a run of word characters in the place
of each star.  With several stars there may be many ways to divide a key, and one of them is
enough.

A glob is written as a pattern between anchors.  What stands between the stars is escaped, so that
marks with a meaning in patterns stand for themselves, and each star becomes a repetition of a word
character.  That pattern occurs in a key exactly if the glob fits it.

There are many word characters, so each star makes the automata much larger, and a glob with many
stars is too large to be compiled.

## Main definitions

- `Expands`: a key can be written as a glob
- `toPattern`: the pattern for a glob
- `shapes`: the row of shapes that is laid out for it

## Main statements

- `finish_run_source`: what is written for a glob is its pattern
- `occursIn_toPattern`: the pattern occurs in the keys that can be written as the glob
- `cost_toPattern_le`, `needs_toPattern`: what the automata take at most, and at least
- `compile?_eq`: a glob is refused for its size only
- `apply_glob`: what a glob selects from a container
-/

namespace DocQuery.Glob

open DocQuery.Text DocQuery.Pattern
open DocQuery.Path (IsPattern parse parse_pattern_append splitFrom ends_nil)

variable {p : Char} {ps key : List Char}

/-! ## Keys that are written as a glob -/

/-- A glob with runs in the places of its stars. -/
def fill : List Char → List (List Char) → List Char
  | '*' :: ps, run :: runs => run ++ fill ps runs
  | p :: ps, runs => p :: fill ps runs
  | [], _ => []

/-- A key can be written as a glob with a run of word characters for each star. -/
def Expands (pattern key : List Char) : Prop :=
  ∃ runs : List (List Char), runs.length = pattern.count '*' ∧
    (∀ run ∈ runs, ∀ c ∈ run, isWord c = true) ∧ key = fill pattern runs

theorem expands_nil_iff : Expands [] key ↔ key = [] := by
  constructor
  · rintro ⟨runs, -, -, rfl⟩
    simp [fill]
  · rintro rfl
    exact ⟨[], rfl, List.forall_mem_nil _, rfl⟩

/-- The first star stands for some run in front, and the rest of the glob for what is behind it. -/
theorem expands_star_iff :
    Expands ('*' :: ps) key ↔
      ∃ run rest, key = run ++ rest ∧ (∀ c ∈ run, isWord c = true) ∧ Expands ps rest := by
  constructor
  · rintro ⟨runs, hlength, hruns, rfl⟩
    rw [List.count_cons_self] at hlength
    obtain ⟨run, runs, rfl⟩ := List.exists_cons_of_length_eq_add_one hlength
    obtain ⟨hrun, hruns⟩ := List.forall_mem_cons.mp hruns
    exact ⟨run, fill ps runs, rfl, hrun, runs, Nat.succ.inj hlength, hruns, rfl⟩
  · rintro ⟨run, _, rfl, hrun, runs, hlength, hruns, rfl⟩
    refine ⟨run :: runs, ?_, List.forall_mem_cons.mpr ⟨hrun, hruns⟩, rfl⟩
    rw [List.count_cons_self, List.length_cons, hlength]

/-- Any other character stands for itself. -/
theorem expands_cons_iff (hp : p ≠ '*') :
    Expands (p :: ps) key ↔ ∃ rest, key = p :: rest ∧ Expands ps rest := by
  have hfill : ∀ runs, fill (p :: ps) runs = p :: fill ps runs := fun runs => by
    rw [fill]
    exact fun _ _ _ h => hp h
  have hcount : (p :: ps).count '*' = ps.count '*' := List.count_cons_of_ne hp
  constructor
  · rintro ⟨runs, hlength, hruns, rfl⟩
    exact ⟨fill ps runs, hfill runs, runs, hcount ▸ hlength, hruns, rfl⟩
  · rintro ⟨_, rfl, runs, hlength, hruns, rfl⟩
    exact ⟨runs, hcount.symm ▸ hlength, hruns, (hfill runs).symm⟩

/-! ## Globs as patterns -/

/-- What a pattern has for a character of a glob. -/
def written (c : Char) : List Char := if c = '*' then wordRun else escape c

/-- A glob is written as a pattern character by character. -/
theorem join_map_splitAt (pattern : List Char) :
    join wordRun ((splitAt '*' pattern).map fun part => part.flatMap escape) =
      pattern.flatMap written := by
  -- a star begins a new part, and any other character belongs to the first one
  induction pattern with
  | nil => rfl
  | cons c cs ih =>
    rw [List.flatMap_cons, ← ih, splitAt]
    cases hparts : splitAt '*' cs with
    | nil => exact absurd hparts (splitAt_ne_nil '*' cs)
    | cons part parts =>
      split
      · next hc =>
        rw [hc, written, if_pos rfl, List.map_cons, List.flatMap_nil, List.map_cons,
          join_cons_cons]
        rfl
      · next hc =>
        rw [written, if_neg hc]
        cases parts <;> simp [join]

/-! ## Reading them -/

/-- What the reader keeps of a character of a glob. -/
def piece (c : Char) : Piece :=
  if c = '*' then .part (.repetition (.one word) 0 none false) 1 else .part (.one (.single c)) 0

/-- Behind a backslash a character with a meaning stands for itself. -/
theorem construct_escaped {c : Char} (hc : isMeta c = true) (rest : List Char) :
    construct {} '\\' (c :: rest) = some (Take.leaf (.one (.single c)), rest) := by
  simp only [isMeta, String.reduceToList, decide_eq_true_eq, List.mem_cons, List.not_mem_nil,
    or_false] at hc
  obtain rfl | rfl | rfl | rfl | rfl | rfl | rfl | rfl | rfl | rfl | rfl | rfl | rfl | rfl | rfl |
    rfl | rfl | rfl := hc <;> rfl

/-- A character without a meaning stands for itself. -/
theorem construct_plain {c : Char} (hc : isMeta c = false) (rest : List Char) :
    construct {} c rest = some (Take.leaf (.one (.single c)), rest) := by
  simp only [isMeta, String.reduceToList, decide_eq_false_iff_not, List.mem_cons, List.not_mem_nil,
    or_false, not_or] at hc
  simp [construct, hc]
  rfl

/-- What is written for a character never turns a repetition in front of it. -/
theorem head?_written_append (c : Char) (rest : List Char) :
    (written c ++ rest).head? ≠ some '?' := by
  rw [written]
  split
  · exact of_decide_eq_true rfl
  · rw [escape]
    split
    · exact of_decide_eq_true rfl
    · next hc =>
      rintro h
      obtain rfl := Option.some.inj h
      exact hc rfl

theorem construct_word (rest : List Char) :
    construct {} '\\' ('w' :: rest) = some (Take.leaf (.one word), rest) := rfl

theorem construct_star {rest : List Char} (hrest : rest.head? ≠ some '?') :
    construct {} '*' rest = some (.repetition 0 none false, rest) := by
  cases rest with
  | nil => rfl
  | cons c rest =>
    have hc : c ≠ '?' := fun h => hrest (congrArg some h)
    simp [construct, Take.repetition, hc]

/-- The reader takes what is written for a character as one piece. -/
theorem run_written {r : Reader} (hr : r.flags = {}) (c : Char) {rest : List Char}
    (hrest : rest.head? ≠ some '?') : r.run (written c ++ rest) = (r.push (piece c)).run rest := by
  have skip : ∀ {r : Reader}, r.flags = {} → ∀ cs, r.flags.skip cs = cs := fun h cs => by
    rw [h]
    rfl
  rw [written, piece]
  split
  · -- a word character is taken first, and then repeated
    have hword : (r.push (.part (.one word) 0)).flags = {} := hr
    have hrun : r.run (wordRun ++ rest) = (r.push (.part (.one word) 0)).run ('*' :: rest) := by
      rw [wordRun, List.cons_append, Reader.run_of_skip_cons (skip hr _), hr]
      rw [List.cons_append, construct_word]
      rfl
    rw [hrun, Reader.run_of_skip_cons (skip hword _), hword, construct_star hrest]
    simp [Construct.apply, Reader.push, hr]
  · rw [escape]
    split
    · next hc =>
      rw [List.cons_append, List.singleton_append, Reader.run_of_skip_cons (skip hr _), hr,
        construct_escaped hc]
      rfl
    · next hc =>
      rw [List.singleton_append, Reader.run_of_skip_cons (skip hr _), hr,
        construct_plain (by simpa using hc)]
      rfl

/-- What the reader has read of the pattern for a glob. -/
def pieces (pattern : List Char) : List Piece :=
  .part (.assertion .textStart) 0 :: (pattern.map piece ++ [.part (.assertion .textEnd) 0])

/-- The characters of a glob are read one after the other, up to the anchor behind them. -/
theorem run_flatMap_written (r : Reader) (hr : r.flags = {}) (pattern : List Char) :
    r.run (pattern.flatMap written ++ ['$']) = some { r with
      pieces := .part (.assertion .textEnd) 0 :: ((pattern.map piece).reverse ++ r.pieces) } := by
  induction pattern generalizing r with
  | nil => exact run_dollar hr
  | cons c cs ih =>
    have hrest : (cs.flatMap written ++ ['$']).head? ≠ some '?' := by
      cases cs with
      | nil => decide
      | cons d ds =>
        rw [List.flatMap_cons, List.append_assoc]
        exact head?_written_append d _
    rw [List.flatMap_cons, List.append_assoc, run_written hr c hrest, ih (r.push (piece c)) hr]
    simp [Reader.push]

/-- What holds of a run of word characters, of each single character and of both anchors holds of
all pieces. -/
theorem forall_mem_pieces {Q : Piece → Prop} (pattern : List Char)
    (hrun : Q (.part (.repetition (.one word) 0 none false) 1))
    (hone : ∀ c, Q (.part (.one (.single c)) 0)) (hanchor : ∀ a, Q (.part (.assertion a) 0)) :
    ∀ x ∈ pieces pattern, Q x := by
  have hpiece : ∀ c, Q (piece c) := fun c => by
    rw [piece]
    split
    · exact hrun
    · exact hone c
  refine List.forall_mem_cons.mpr ⟨hanchor _, List.forall_mem_append.mpr ⟨?_, ?_⟩⟩
  · exact List.forall_mem_map.mpr fun c _ => hpiece c
  · exact List.forall_mem_singleton.mpr (hanchor _)

/-- The pattern for a glob. -/
def toPattern (pattern : List Char) : Pattern := concatAll ((pieces pattern).map Piece.pattern)

/-- Things side by side nest at most one level deeper than each of them. -/
theorem depthOf_le {ds : List Nat} {n : Nat} (h : ∀ d ∈ ds, d ≤ n) :
    Reader.depthOf ds ≤ n + 1 := by
  have hmax : ∀ (ds : List Nat) (m : Nat), m ≤ n → (∀ d ∈ ds, d ≤ n) → ds.foldl max m ≤ n := by
    intro ds
    induction ds with
    | nil => exact fun m hm _ => hm
    | cons d ds ih =>
      intro m hm h
      obtain ⟨hd, hds⟩ := List.forall_mem_cons.mp h
      exact ih (max m d) (Nat.max_le.mpr ⟨hm, hd⟩) hds
  unfold Reader.depthOf
  split
  · exact Nat.zero_le _
  · exact Nat.le_succ_of_le (h _ List.mem_cons_self)
  · exact Nat.succ_le_succ (hmax ds 0 (Nat.zero_le n) h)

/-- What is written for a glob is a pattern. -/
theorem finish_run_source (pattern : List Char) :
    (({} : Reader).run (source pattern)).bind Reader.finish = some (toPattern pattern) := by
  have hrun : ({} : Reader).run (source pattern) =
      some { pieces := (pieces pattern).reverse : Reader } := by
    rw [source, join_map_splitAt]
    refine (Reader.run_of_skip_cons rfl).trans ?_
    refine (run_flatMap_written _ rfl pattern).trans ?_
    simp [pieces, Reader.push, Flags.caret]
  have hpieces : ∀ x ∈ pieces pattern, x.depth ≤ 1 :=
    forall_mem_pieces pattern (Nat.le_refl 1) (fun _ => Nat.zero_le 1) fun _ => Nat.zero_le 1
  have hdepth : Reader.depthOf ((pieces pattern).map Piece.depth) ≤ Reader.maxDepth :=
    (depthOf_le (List.forall_mem_map.mpr hpieces)).trans (by decide)
  have hchoice : ({ pieces := (pieces pattern).reverse : Reader }).choice =
      (toPattern pattern, Reader.depthOf ((pieces pattern).map Piece.depth)) := by
    simp [Reader.choice, Reader.branch, toPattern, choiceOf, Reader.depthOf]
  rw [hrun, Option.bind_some, Reader.finish, hchoice]
  simp [hdepth]

/-! ## Matching with them -/

/-- What stands behind the first anchor covers the rest of a text exactly if that can be written as
the glob. -/
theorem matches_row_iff {pattern front key : List Char} :
    (∃ j, Matches (front ++ key).toArray
        (concatAll (pattern.map (fun c => (piece c).pattern) ++ [.assertion .textEnd]))
        front.length j) ↔ Expands pattern key := by
  -- on the glob; what its first character covers then stands in front of the place
  induction pattern generalizing front key with
  | nil =>
    rw [expands_nil_iff, List.map_nil, List.nil_append, concatAll]
    simp [matches_end_iff]
  | cons c cs ih =>
    by_cases hc : c = '*'
    · subst hc
      simp only [List.map_cons, List.cons_append, piece, if_true, Piece.pattern,
        matches_run_concatAll_iff]
      rw [expands_star_iff]
      constructor
      · rintro ⟨j, run, rest, rfl, hrun, -, -, hrest⟩
        exact ⟨run, rest, rfl, hrun, ih.mp ⟨j, hrest⟩⟩
      · rintro ⟨run, rest, rfl, hrun, hrest⟩
        obtain ⟨j, hrest⟩ := ih.mpr hrest
        exact ⟨j, run, rest, rfl, hrun, Nat.zero_le _, by simp, hrest⟩
    · simp only [List.map_cons, List.cons_append, piece, if_neg hc, Piece.pattern,
        matches_one_concatAll_iff, contains_single]
      rw [expands_cons_iff hc]
      constructor
      · rintro ⟨j, d, rest, rfl, rfl, hrest⟩
        exact ⟨rest, rfl, ih.mp ⟨j, hrest⟩⟩
      · rintro ⟨rest, rfl, hrest⟩
        obtain ⟨j, hrest⟩ := ih.mpr hrest
        exact ⟨j, c, rest, rfl, rfl, hrest⟩

theorem toPattern_wellFormed (pattern : List Char) : (toPattern pattern).WellFormed :=
  concatAll_wellFormed <| List.forall_mem_map.mpr <|
    forall_mem_pieces pattern ⟨by simp, trivial⟩ (fun _ => trivial) fun _ => trivial

/-- The pattern for a glob occurs in the keys that can be written as the glob. -/
theorem occursIn_toPattern (pattern key : List Char) :
    (toPattern pattern).occursIn key = true ↔ Expands pattern key := by
  have hbehind : (∃ j, Matches ([] ++ key).toArray
      (concatAll (pattern.map (fun c => (piece c).pattern) ++ [.assertion .textEnd]))
      ([] : List Char).length j) ↔ Expands pattern key := matches_row_iff
  rw [occursIn_iff (toPattern_wellFormed pattern), ← hbehind]
  simp only [toPattern, pieces, List.map_cons, List.map_append, List.map_map, List.map_nil,
    matches_concatAll_cons_iff]
  constructor
  · -- the first anchor leaves no other place to begin at
    rintro ⟨i, hi, j, _, hstart, hrow⟩
    obtain ⟨rfl, rfl⟩ := (matches_start_iff (by simpa using hi)).mp hstart
    exact ⟨j, hrow⟩
  · rintro ⟨j, hrow⟩
    exact ⟨0, Nat.zero_le _, j, 0, (matches_start_iff (Nat.zero_le _)).mpr ⟨rfl, rfl⟩, hrow⟩

instance (pattern key : List Char) : Decidable (Expands pattern key) :=
  decidable_of_iff _ (occursIn_toPattern pattern key)

example : Expands "*_*".toList "last_name_2".toList ∧ ¬Expands "*_*".toList "last-name_2".toList ∧
    ¬Expands "first.*".toList "firstxname".toList := by
  decide +kernel

/-! ## How large they are -/

/-- A run of word characters, as it is laid out. -/
def runShape : Shape := .repetition (.one word) 0 none false

/-- The shape of what a pattern has for a character of a glob. -/
def shape (c : Char) : Shape := if c = '*' then runShape else .text [c]

theorem ofPattern_run : Shape.ofPattern (.repetition (.one word) 0 none false) = runShape := by
  have hset : Shape.ofSet word = .one word := by
    have hmany : word.single? = none := by decide +kernel
    rw [Shape.ofSet, hmany]
  show Shape.repeated (Shape.ofSet word) 0 none false = runShape
  rw [hset]
  rfl

theorem ofPattern_single (c : Char) : Shape.ofPattern (.one (.single c)) = .text [c] := by
  show Shape.ofSet (.single c) = .text [c]
  simp [Shape.ofSet, CodePointSet.single?, CodePointSet.single]

theorem ofPattern_piece (c : Char) : Shape.ofPattern (piece c).pattern = shape c := by
  rw [piece, shape]
  split
  · exact ofPattern_run
  · exact ofPattern_single c

/-- The shapes for a glob, with an anchor at each end. -/
def shapes (pattern : List Char) : List Shape :=
  .assertion .textStart :: (pattern.map shape ++ [.assertion .textEnd])

theorem map_ofPattern_pieces (pattern : List Char) :
    ((pieces pattern).map Piece.pattern).map Shape.ofPattern = shapes pattern := by
  simp only [pieces, List.map_cons, List.map_append, List.map_map, List.map_nil]
  rw [shapes, ← List.map_congr_left fun c _ => ofPattern_piece c]
  rfl

/-- What holds of a run of word characters, of each single character and of both anchors holds of
all shapes for a glob. -/
theorem forall_mem_shapes {Q : Shape → Prop} (pattern : List Char) (hrun : Q runShape)
    (htext : ∀ c, Q (.text [c])) (hanchor : ∀ a, Q (.assertion a)) : ∀ s ∈ shapes pattern, Q s := by
  have hpieces : ∀ x ∈ pieces pattern, Q (Shape.ofPattern x.pattern) :=
    forall_mem_pieces pattern (ofPattern_run ▸ hrun) (fun c => ofPattern_single c ▸ htext c) hanchor
  rw [← map_ofPattern_pieces]
  exact List.forall_mem_map.mpr (List.forall_mem_map.mpr hpieces)

theorem isSingle_of_mem_shapes (pattern : List Char) : ∀ s ∈ shapes pattern, s.IsSingle :=
  forall_mem_shapes pattern (fun _ => nofun) (fun _ _ => nofun) fun _ _ => nofun

/-- The pattern for a glob is laid out as a row. -/
theorem ofPattern_toPattern (pattern : List Char) :
    Shape.ofPattern (toPattern pattern) = .inSequence (shapes pattern) := by
  have hsingle : ∀ p ∈ (pieces pattern).map Piece.pattern, (Shape.ofPattern p).IsSingle := by
    intro p hp
    exact isSingle_of_mem_shapes pattern _ (map_ofPattern_pieces pattern ▸ List.mem_map_of_mem hp)
  rw [toPattern, Shape.ofPattern_concatAll hsingle, map_ofPattern_pieces]

/-- How many sequences of bytes the word characters have, and how much memory is enough for them. -/
theorem size_word : word.isAscii = false ∧ (Automaton.sequences word).length = 995 ∧
    Automaton.setCost word = 318028 := by
  decide +kernel

/-- A star takes so many bytes at most. -/
theorem cost_runShape : runShape.cost = 318232 := by
  simp [runShape, Shape.cost, size_word.2.2]

/-- A character takes a state for each of its bytes. -/
theorem cost_text_le (c : Char) : (Shape.text [c]).cost ≤ 128 := by
  have hbytes : (bytesOf c).length ≤ 4 := by
    rw [bytesOf, List.length_map, String.length_utf8EncodeChar]
    exact Char.utf8Size_le_four c
  rw [Shape.cost, List.flatMap_singleton]
  omega

/-- A glob takes no more than its stars and its other characters take. -/
theorem cost_toPattern_le (pattern : List Char) :
    (Shape.ofPattern (toPattern pattern)).cost ≤
      318236 * pattern.count '*' + 132 * pattern.length + 104 := by
  have hchars : ((pattern.map shape).map fun s => s.cost + 4).sum ≤
      318236 * pattern.count '*' + 132 * pattern.length := by
    induction pattern with
    | nil => exact Nat.le_refl _
    | cons c cs ih =>
      simp only [List.map_cons, List.sum_cons, List.length_cons]
      rw [shape]
      split
      · next hc =>
        rw [hc, List.count_cons_self, cost_runShape]
        omega
      · next hc =>
        have hle := cost_text_le c
        rw [List.count_cons_of_ne hc]
        omega
  rw [ofPattern_toPattern]
  refine (Shape.cost_inSequence_le (isSingle_of_mem_shapes pattern)).trans ?_
  simp only [shapes, List.map_cons, List.map_append, List.sum_cons, List.sum_append, List.map_nil,
    List.sum_nil, Shape.cost]
  omega

/-- Whether a shape is a repetition. -/
def isRepetition : Shape → Bool
  | .repetition .. => true
  | _ => false

theorem countP_shapes (pattern : List Char) :
    (shapes pattern).countP isRepetition = pattern.count '*' := by
  have hcount : (pattern.map shape).countP isRepetition = pattern.count '*' := by
    rw [List.countP_map, List.count]
    refine List.countP_congr fun c _ => ?_
    by_cases hc : c = '*' <;> simp [shape, hc, runShape, isRepetition]
  simp [shapes, hcount, isRepetition]

/-- A star takes so many bytes at least, in the automaton that reads backward. -/
theorem needs_runShape : Automaton.Needs (Automaton.layout true runShape) 4080 := by
  obtain ⟨hascii, hlength, -⟩ := size_word
  have hneed := Automaton.needs_unbounded (Automaton.needs_oneOf hascii)
    (Shape.one word).traits.neverEmpty
  rwa [hlength] at hneed

/-- A glob needs what its stars need. -/
theorem needs_toPattern (pattern : List Char) :
    Automaton.Needs (Automaton.layout true (Shape.ofPattern (toPattern pattern)))
      (4080 * pattern.count '*') := by
  have htext : ∀ cs, Automaton.Needs (Automaton.layout true (.text cs)) 0 := fun cs =>
    ((Automaton.needs_states _).bind fun _ => Automaton.needs_pure _).mono (Nat.zero_le _)
  have hanchor : ∀ a, Automaton.Needs (Automaton.layout true (.assertion a)) 0 := fun a =>
    ((Automaton.needs_state 0).bind fun _ => Automaton.needs_pure _).mono (Nat.zero_le _)
  have hparts : ∀ s ∈ Shape.joinTexts (shapes pattern),
      Automaton.Needs (Automaton.layout true s) (if isRepetition s then 4080 else 0) :=
    Shape.forall_mem_joinTexts (fun cs ds _ _ => htext (cs ++ ds))
      (forall_mem_shapes pattern needs_runShape (fun c => htext [c]) hanchor)
  have hneed := Automaton.needs_inSequence (isSingle_of_mem_shapes pattern) (fun _ => rfl) rfl
    hparts
  rwa [countP_shapes, Nat.mul_comm, ← ofPattern_toPattern] at hneed

/-! ## Compiling them -/

/-- The pattern for a glob is refused for its size only. -/
theorem compile?_eq (pattern : String) :
    compile? pattern = if Automaton.fits (toPattern pattern.toList) then
      some (toPattern pattern.toList) else none := by
  rw [compile?, read?, finish_run_source]
  rfl

theorem compile?_eq_some_iff {pattern : String} {p : Pattern} :
    compile? pattern = some p ↔
      Automaton.fits (toPattern pattern.toList) = true ∧ p = toPattern pattern.toList := by
  rw [compile?_eq]
  split
  · next hfits =>
    exact ⟨fun h => ⟨hfits, (Option.some.inj h).symm⟩, fun h => congrArg some h.2.symm⟩
  · next hlarge => exact ⟨nofun, fun h => absurd h.1 hlarge⟩

theorem isSome_compile?_iff {pattern : String} :
    (compile? pattern).isSome = true ↔ Automaton.fits (toPattern pattern.toList) = true := by
  rw [compile?_eq]
  split
  · next hfits => exact iff_of_true rfl hfits
  · next hlarge => exact iff_of_false Bool.false_ne_true hlarge

/-- With few stars a glob is compiled. -/
theorem isSome_compile? {pattern : String}
    (hroom : 318236 * pattern.toList.count '*' + 132 * pattern.toList.length + 320 ≤
      Automaton.maxBytes) : (compile? pattern).isSome = true := by
  have hcost := cost_toPattern_le pattern.toList
  exact isSome_compile?_iff.mpr (Automaton.fits_of_cost (by omega))

/-- With many stars it is not. -/
theorem compile?_eq_none {pattern : String}
    (hstars : Automaton.maxBytes < 4080 * pattern.toList.count '*') : compile? pattern = none := by
  rw [compile?_eq, if_neg]
  intro hfits
  exact absurd (Automaton.le_maxBytes_of_fits hfits (needs_toPattern pattern.toList)) (by omega)

/-- A glob that is not compiled stops a query whatever it is applied to. -/
theorem apply_of_compile?_eq_none {pattern : String} (h : compile? pattern = none) (s : Store)
    (v : Value) : s.apply (.glob pattern) v = .error (.oversizedGlob pattern) := by
  rw [Store.apply, h]

/-- A glob that is compiled selects from a container, in their order, the values whose keys can be
written as the glob with a run of word characters for each star: what stands behind the keys that
its pattern occurs in.  A glob that is not compiled stops the query.  That depends on the size of
its automata alone, where every star takes at least 4080 and at most 318236 bytes. -/
theorem apply_glob (s : Store) (pattern : String) (h : Handle) :
    s.apply (.glob pattern) (.container h) =
      (if (compile? pattern).isSome then
        .ok (((s.cell h).entries.filter fun e => Expands pattern.toList e.1.toList).map Prod.snd)
      else .error (.oversizedGlob pattern)) ∧
    (∀ p, compile? pattern = some p →
      ∀ key, p.occursIn key = true ↔ Expands pattern.toList key) ∧
    ((compile? pattern).isSome = true ↔ Automaton.fits (toPattern pattern.toList) = true) ∧
    (318236 * pattern.toList.count '*' + 132 * pattern.toList.length + 320 ≤ Automaton.maxBytes →
      (compile? pattern).isSome = true) ∧
    (Automaton.maxBytes < 4080 * pattern.toList.count '*' → compile? pattern = none) := by
  have hcompiled : ∀ p, compile? pattern = some p →
      ∀ key, p.occursIn key = true ↔ Expands pattern.toList key := by
    intro p hp
    obtain ⟨-, rfl⟩ := compile?_eq_some_iff.mp hp
    exact occursIn_toPattern pattern.toList
  refine ⟨?_, hcompiled, isSome_compile?_iff, isSome_compile?, compile?_eq_none⟩
  cases hp : compile? pattern with
  | none => exact apply_of_compile?_eq_none hp s _
  | some p =>
    rw [Store.apply, hp]
    have hkeys : (fun e : String × Value => p.occursIn e.1.toList) =
        fun e => decide (Expands pattern.toList e.1.toList) :=
      funext fun e => by rw [Bool.eq_iff_iff, hcompiled p hp, decide_eq_true_iff]
    show Except.ok (s.matchKeys p (.container h)) = _
    rw [Option.isSome_some, if_pos rfl, Store.matchKeys, hkeys]
    rfl

/-- A letter and many stars. -/
def manyStars : List Char := 'a' :: List.replicate 3000 '*'

theorem isPattern_manyStars : IsPattern manyStars := by
  have hstar : '*' ∈ List.replicate 3000 '*' := List.mem_replicate.mpr ⟨by decide, rfl⟩
  refine ⟨List.forall_mem_cons.mpr ⟨.inl (by decide), fun c hc => ?_⟩,
    List.mem_cons_of_mem _ hstar, 'a', List.mem_cons_self, by decide⟩
  exact .inr (List.eq_of_mem_replicate hc)

theorem parse_manyStars :
    parse (String.ofList manyStars) = [.glob (String.ofList manyStars)] := by
  have hrow := parse_pattern_append isPattern_manyStars (ends_nil _)
  rwa [List.append_nil, splitFrom, List.map_nil] at hrow

theorem maxBytes_lt_manyStars :
    Automaton.maxBytes < 4080 * (String.ofList manyStars).toList.count '*' := by
  rw [String.toList_ofList, manyStars, List.count_cons_of_ne (by decide), List.count_replicate_self]
  decide

theorem compile?_manyStars : compile? (String.ofList manyStars) = none :=
  compile?_eq_none maxBytes_lt_manyStars

/-- Two stars are divided in several ways, and many stars are too many. -/
theorem apply_glob_names :
    let s : Store := ⟨#[.object [("first_name", .integer 1), ("last-name", .integer 2),
      ("last_name_2", .integer 3)]]⟩
    318236 * "*_*".toList.count '*' + 132 * "*_*".toList.length + 320 ≤ Automaton.maxBytes ∧
      s.apply (.glob "*_*") (.container ⟨0⟩) = .ok [.integer 1, .integer 3] ∧
      Automaton.maxBytes < 4080 * (String.ofList manyStars).toList.count '*' ∧
      s.apply (.glob (String.ofList manyStars)) (.container ⟨0⟩) =
        .error (.oversizedGlob (String.ofList manyStars)) := by
  intro s
  have hroom : 318236 * "*_*".toList.count '*' + 132 * "*_*".toList.length + 320 ≤
      Automaton.maxBytes := by decide
  obtain ⟨hfew, -, -, hcompiled, -⟩ := apply_glob s "*_*" ⟨0⟩
  obtain ⟨hmany, -, -, -, hrefused⟩ := apply_glob s (String.ofList manyStars) ⟨0⟩
  refine ⟨hroom, ?_, maxBytes_lt_manyStars, ?_⟩
  · rw [hfew, if_pos (hcompiled hroom)]
    decide +kernel
  · rw [hmany, hrefused maxBytes_lt_manyStars]
    rfl

/-- A path of many stars is read as a glob, and no key is asked. -/
theorem apply_glob_manyStars :
    let s : Store := ⟨#[.object []]⟩
    let path := String.ofList manyStars
    parse path = [.glob path] ∧
      s.find (.container ⟨0⟩) path = .error (.oversizedGlob path) ∧
      s.apply (.glob path) (.container ⟨0⟩) ≠
        .ok (((s.cell ⟨0⟩).entries.filter fun e => Expands path.toList e.1.toList).map
          Prod.snd) := by
  intro s path
  have hparse : parse path = [.glob path] := parse_manyStars
  have happly := apply_of_compile?_eq_none compile?_manyStars s (.container ⟨0⟩)
  refine ⟨hparse, ?_, ?_⟩
  · rw [Store.find_of_parse_singleton hparse (fun _ => nofun), happly]
  · rw [happly]
    exact nofun

end DocQuery.Glob
