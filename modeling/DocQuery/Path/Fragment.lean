import DocQuery.Text.Cut

/-!
# Fragments of a Path

A path is read from left to right in groups of up to four fragments, each of them optional,
in this order: a glob, dotted names, a search marker with optional names, one bracket.  Where
none of them starts one character is left out.

Each scanner answers how many characters at the front of a text belong to its fragment; zero
means that none starts there.

## Main definitions

- `stripRoot`: a path without the marker of the root
- `scanGlob`, `scanNames`, `scanDescendant`, `scanBracket`: the scanners
- `split`: the fragments of a path
-/

namespace DocQuery.Path

open DocQuery.Text

/-! ## Scanners -/

/-- A path without the dollar signs in front, and without a single dot behind them. -/
def stripRoot (path : List Char) : List Char :=
  match path.dropWhile (· == '$') with
  | '.' :: '.' :: rest => '.' :: '.' :: rest
  | '.' :: rest => rest
  | rest => rest

/-- The characters that end a glob. -/
def isGlobStop (c : Char) : Bool := ['.', '[', ']', '(', ')', '?', '\x27', '"'].contains c

/-- A glob starts if a star and a character of a name are ahead on the line; it goes up to the
next dot, bracket, parenthesis, question mark or quote. -/
def scanGlob (cs : List Char) : Nat :=
  let line := cs.takeWhile (· != '\n')
  if line.contains '*' && line.any isNameChar then (cs.takeWhile (!isGlobStop ·)).length else 0

/-- The length of the name in front: a run of characters that satisfy `isPart`, or a quoted
text that is not empty. -/
def nameLength (isPart : Char → Bool) : List Char → Nat
  | '"' :: rest =>
    let body := rest.takeWhile (· != '"')
    if body.isEmpty || body.length == rest.length then 0 else body.length + 2
  | cs => (cs.takeWhile isPart).length

/-- One name, bare or quoted. -/
def scanName (cs : List Char) : Nat := nameLength isNameChar cs

/-- More names, each behind a dot.  A dot that no name follows is not taken. -/
def scanMoreNames : List Char → Nat
  | '.' :: rest =>
    let n := scanName rest
    if n = 0 then 0 else n + 1 + scanMoreNames (rest.drop n)
  | _ => 0
termination_by cs => cs.length
decreasing_by simp only [List.length_drop, List.length_cons]; omega

/-- Dotted names. -/
def scanNames (cs : List Char) : Nat :=
  let n := scanName cs
  if n = 0 then 0 else n + scanMoreNames (cs.drop n)

/-- Two or three dots, and dotted names behind them. -/
def scanDescendant (cs : List Char) : Nat :=
  let dots := (cs.takeWhile (· == '.')).length
  if dots < 2 then 0
  else
    let dots := min dots 3
    dots + scanNames (cs.drop dots)

/-- A bracket with at least one character inside. -/
def scanBracket : List Char → Nat
  | '[' :: rest =>
    let body := rest.takeWhile (· != ']')
    if body.isEmpty || body.length == rest.length then 0 else body.length + 2
  | _ => 0

/-- The scanners of one group, in their order. -/
def scanners : List (List Char → Nat) := [scanGlob, scanNames, scanDescendant, scanBracket]

/-! ## Splitting -/

/-- Lets each scanner take its fragment in turn: the fragments, and what is left. -/
def takeGroup : List (List Char → Nat) → List Char → List (List Char) × List Char
  | [], cs => ([], cs)
  | scan :: scans, cs =>
    let n := scan cs
    if n = 0 then takeGroup scans cs
    else
      let (fragments, rest) := takeGroup scans (cs.drop n)
      (cs.take n :: fragments, rest)

theorem length_takeGroup_le (scans : List (List Char → Nat)) (cs : List Char) :
    (takeGroup scans cs).2.length ≤ cs.length := by
  induction scans generalizing cs with
  | nil => exact Nat.le_refl _
  | cons scan scans ih =>
    simp only [takeGroup]
    split
    · exact ih cs
    · exact Nat.le_trans (ih _) (by simp)

/-- A group that has a fragment leaves less text than there was. -/
theorem length_takeGroup_lt {scans : List (List Char → Nat)} {cs : List Char} (hcs : cs ≠ [])
    (h : (takeGroup scans cs).1 ≠ []) : (takeGroup scans cs).2.length < cs.length := by
  induction scans with
  | nil => simp [takeGroup] at h
  | cons scan scans ih =>
    simp only [takeGroup] at h ⊢
    split
    · next h₀ => rw [if_pos h₀] at h; exact ih h
    · next h₀ =>
      have := length_takeGroup_le scans (cs.drop (scan cs))
      have hpos := List.length_pos_iff.mpr hcs
      simp only [List.length_drop] at this
      show (takeGroup scans (cs.drop (scan cs))).2.length < cs.length
      omega

/-- The fragments of a text, group after group. -/
def splitFrom : List Char → List (List Char)
  | [] => []
  | c :: cs =>
    match _h : takeGroup scanners (c :: cs) with
    | ([], _) => splitFrom cs
    | (fragment :: fragments, rest) => fragment :: fragments ++ splitFrom rest
termination_by cs => cs.length
decreasing_by
  · simp
  · have := @length_takeGroup_lt scanners (c :: cs) (by simp) (by rw [_h]; simp)
    rwa [_h] at this

/-- The fragments of a path.  None at all means that the path names the root. -/
def split (path : String) : List String :=
  (splitFrom (stripRoot path.toList)).map String.ofList

end DocQuery.Path
