/-!
# Sets of Code Points

A set of code points is kept as the ascending list of the points at which membership
changes.  Code points below the first point are outside the set, those from the first up to
the second are inside, and so on.  Properties of the Unicode character database are tables
in this form, and equal sets have equal lists.

`contains` walks the list and stops at the first point beyond the code point asked for, so
the question costs little for the scripts whose code points come first.  All operations on
two sets are one merge, `combine`, which keeps the points at which the combined answer
changes.

## Main statements

- `contains_combine`: a combined set holds a character as the operation says
- `contains_diff`: what is left of a set
- `contains_compl`: what is outside a set
-/

namespace DocQuery.Text

/-- A set of code points, given by the ascending points at which membership changes. -/
structure CodePointSet where
  /-- The points of change, in ascending order. -/
  changes : List Nat
deriving DecidableEq, Repr

namespace CodePointSet

/-! ## Membership -/

/-- Membership of `n`, when the points before `changes` left it at `inside`. -/
def containsFrom (inside : Bool) : List Nat → Nat → Bool
  | [], _ => inside
  | point :: rest, n => if n < point then inside else containsFrom (!inside) rest n

/-- Whether the set holds the code point `n`. -/
def holds (s : CodePointSet) (n : Nat) : Bool := containsFrom false s.changes n

/-- Whether the set holds the character `c`. -/
def contains (s : CodePointSet) (c : Char) : Bool := s.holds c.toNat

/-- Below the first point of change membership stays what it was. -/
theorem containsFrom_of_lt {inside : Bool} {point n : Nat} {rest : List Nat} (h : n < point) :
    containsFrom inside (point :: rest) n = inside := by
  simp [containsFrom, h]

/-- From the first point of change on membership is turned over. -/
theorem containsFrom_of_le {inside : Bool} {point n : Nat} {rest : List Nat} (h : point ≤ n) :
    containsFrom inside (point :: rest) n = containsFrom (!inside) rest n := by
  simp [containsFrom, Nat.not_lt.mpr h]

/-! ## Building sets -/

/-- The set without members. -/
def empty : CodePointSet := ⟨[]⟩

/-- The code points from `first` up to but not including `stop`. -/
def interval (first stop : Nat) : CodePointSet := if first < stop then ⟨[first, stop]⟩ else empty

/-- The points of change for the members `ns`, which ascend; neighbours share one stretch. -/
def changesOfAscending : List Nat → List Nat
  | [] => []
  | n :: ns =>
    match changesOfAscending ns with
    | point :: rest => if point = n + 1 then n :: rest else n :: (n + 1) :: point :: rest
    | [] => [n, n + 1]

/-- The set with the members `ns`, which ascend. -/
def ofAscending (ns : List Nat) : CodePointSet := ⟨changesOfAscending ns⟩

/-- The points at which `p` changes along a table of steps, when it was `inside` before. -/
def changesOfSteps {α : Type} (p : α → Bool) (inside : Bool) : List (Nat × α) → List Nat
  | [] => []
  | (point, a) :: steps =>
    if p a = inside then changesOfSteps p inside steps
    else point :: changesOfSteps p (p a) steps

/-- The code points at which `p` holds, for a table that gives the value from each of its
points on. -/
def ofSteps {α : Type} (p : α → Bool) (steps : List (Nat × α)) : CodePointSet :=
  ⟨changesOfSteps p false steps⟩

/-! ## Stretches -/

/-- The first and the last member of each stretch, for points of change that ascend. -/
def rangesOf : List Nat → List (Nat × Nat)
  | first :: stop :: rest => (first, stop - 1) :: rangesOf rest
  | _ => []

/-- The stretches of the set. -/
def ranges (s : CodePointSet) : List (Nat × Nat) := rangesOf s.changes

/-- Where the last stretch ends, a member lies in one of the stretches. -/
theorem exists_range_of_containsFrom {points : List Nat} {n : Nat} (heven : points.length % 2 = 0)
    (h : containsFrom false points n = true) : ∃ r ∈ rangesOf points, r.1 ≤ n ∧ n ≤ r.2 := by
  induction points using rangesOf.induct with
  | case1 first stop rest ih =>
    by_cases hfirst : n < first
    · rw [containsFrom_of_lt hfirst] at h
      cases h
    rw [containsFrom_of_le (Nat.not_lt.mp hfirst)] at h
    by_cases hstop : n < stop
    · have hlast : n ≤ stop - 1 := Nat.le_sub_one_of_lt hstop
      exact ⟨(first, stop - 1), by simp [rangesOf], Nat.not_lt.mp hfirst, hlast⟩
    · rw [containsFrom_of_le (Nat.not_lt.mp hstop)] at h
      obtain ⟨r, hr, hn⟩ := ih (by simp only [List.length_cons] at heven; omega) h
      exact ⟨r, List.mem_cons_of_mem _ hr, hn⟩
  | case2 points hshort =>
    match points with
    | [] => cases h
    | [_] => cases heven
    | first :: stop :: rest => exact absurd rfl (hshort first stop rest)

/-- Whether all members are below U+0080. -/
def isAscii (s : CodePointSet) : Bool := s.changes.all (· ≤ 128)

/-! ## Operations -/

/-- Puts `point` in front of `rest` if membership changes there. -/
def keepIf (changed : Bool) (point : Nat) (rest : List Nat) : List Nat :=
  if changed then point :: rest else rest

/-- The points at which `op` changes along `ys`, when its left side stays `a` and its right
side has been left at `b`. -/
def combineRight (op : Bool → Bool → Bool) (a : Bool) : (b : Bool) → (ys : List Nat) → List Nat
  | _, [] => []
  | b, y :: ys => keepIf (op a b != op a (!b)) y (combineRight op a (!b) ys)

/-- The points at which `op` changes, when the next point of the left side is `x` and `next`
gives the points behind it. -/
def combineBefore (op : Bool → Bool → Bool) (a : Bool) (x : Nat)
    (next : Bool → List Nat → List Nat) : (b : Bool) → (ys : List Nat) → List Nat
  | b, [] => keepIf (op a b != op (!a) b) x (next b [])
  | b, y :: ys =>
    if x < y then keepIf (op a b != op (!a) b) x (next b (y :: ys))
    else if y < x then keepIf (op a b != op a (!b)) y (combineBefore op a x next (!b) ys)
    else keepIf (op a b != op (!a) (!b)) x (next (!b) ys)

/-- The points at which `op` changes, when the points before have left the two sides at `a`
and `b`. -/
def combineFrom (op : Bool → Bool → Bool) :
    (a : Bool) → (xs : List Nat) → (b : Bool) → (ys : List Nat) → List Nat
  | a, [] => combineRight op a
  | a, x :: xs => combineBefore op a x (combineFrom op (!a) xs)

/-- The set whose members `op` tells from membership in `s` and in `t`.  What is in neither
must not be a member. -/
def combine (op : Bool → Bool → Bool) (s t : CodePointSet) : CodePointSet :=
  ⟨combineFrom op false s.changes false t.changes⟩

/-- Members of one set or the other. -/
def union (s t : CodePointSet) : CodePointSet := combine (· || ·) s t

/-- Members of both sets. -/
def inter (s t : CodePointSet) : CodePointSet := combine (· && ·) s t

/-- Members of the first set that are not in the second. -/
def diff (s t : CodePointSet) : CodePointSet := combine (fun a b => a && !b) s t

/-- Members of exactly one of the sets. -/
def symmDiff (s t : CodePointSet) : CodePointSet := combine (· != ·) s t

/-- Members of any of the sets. -/
def unionAll (sets : List CodePointSet) : CodePointSet := sets.foldl union empty

/-- Every character: all code points but the surrogates. -/
def all : CodePointSet where
  changes := [0, 55296, 57344, 1114112]

/-- Everything outside the set. -/
def compl (s : CodePointSet) : CodePointSet := all.diff s

/-- The characters from `first` to `last`. -/
def range (first last : Char) : CodePointSet := all.inter (interval first.toNat (last.toNat + 1))

/-- The set holding only `c`. -/
def single (c : Char) : CodePointSet := ⟨[c.toNat, c.toNat + 1]⟩

/-- The character of a set that holds one. -/
def single? (s : CodePointSet) : Option Char :=
  match s.changes with
  | [first, stop] => if stop = first + 1 then some (Char.ofNat first) else none
  | _ => none

/-- The set, or everything outside it if `negated`. -/
def negateIf (negated : Bool) (s : CodePointSet) : CodePointSet := if negated then s.compl else s

/-! ## The merge is right -/

/-- Nothing changes below the first point. -/
theorem containsFrom_of_forall_lt {inside : Bool} {xs : List Nat} {n : Nat}
    (h : ∀ x ∈ xs, n < x) : containsFrom inside xs n = inside := by
  cases xs with
  | nil => rfl
  | cons x xs => exact containsFrom_of_lt (h x List.mem_cons_self)

/-- Keeping a point tells how membership goes on from it. -/
theorem containsFrom_keepIf {inside next : Bool} {point n : Nat} {rest : List Nat} :
    containsFrom inside (keepIf (inside != next) point rest) n =
      if n < point ∧ inside ≠ next then inside else containsFrom next rest n := by
  cases inside <;> cases next <;> simp [keepIf, containsFrom]

/-- A kept point is the point itself or one of the rest. -/
theorem mem_keepIf {changed : Bool} {point p : Nat} {rest : List Nat}
    (h : p ∈ keepIf changed point rest) : p = point ∨ p ∈ rest := by
  cases changed <;> simp_all [keepIf]

theorem mem_combineRight {f : Bool → Bool → Bool} {a b : Bool} {ys : List Nat} {p : Nat}
    (h : p ∈ combineRight f a b ys) : p ∈ ys := by
  induction ys generalizing b with
  | nil => simp [combineRight] at h
  | cons y ys ih =>
    rcases mem_keepIf h with rfl | h
    · exact List.mem_cons_self
    · exact List.mem_cons_of_mem y (ih h)

theorem mem_combineBefore {f : Bool → Bool → Bool} {a b : Bool} {x : Nat} {xs ys : List Nat}
    {next : Bool → List Nat → List Nat} {p : Nat}
    (hnext : ∀ b ys, p ∈ next b ys → p ∈ xs ∨ p ∈ ys)
    (h : p ∈ combineBefore f a x next b ys) : p ∈ x :: xs ∨ p ∈ ys := by
  induction ys generalizing b with
  | nil =>
    rcases mem_keepIf h with rfl | h
    · exact Or.inl List.mem_cons_self
    · exact (hnext _ _ h).imp_left (List.mem_cons_of_mem x)
  | cons y ys ih =>
    simp only [combineBefore] at h
    split at h
    · rcases mem_keepIf h with rfl | h
      · exact Or.inl List.mem_cons_self
      · exact (hnext _ _ h).imp_left (List.mem_cons_of_mem x)
    · split at h
      · rcases mem_keepIf h with rfl | h
        · exact Or.inr List.mem_cons_self
        · exact (ih h).imp_right (List.mem_cons_of_mem y)
      · rcases mem_keepIf h with rfl | h
        · exact Or.inl List.mem_cons_self
        · exact (hnext _ _ h).imp (List.mem_cons_of_mem x) (List.mem_cons_of_mem y)

/-- A merge has only points of the two lists. -/
theorem mem_combineFrom {f : Bool → Bool → Bool} {a b : Bool} {xs ys : List Nat} {p : Nat}
    (h : p ∈ combineFrom f a xs b ys) : p ∈ xs ∨ p ∈ ys := by
  induction xs generalizing a b ys with
  | nil => exact Or.inr (mem_combineRight h)
  | cons x xs ih => exact mem_combineBefore (fun _ _ => ih) h

/-- A step of the merge: past the kept point the answer is that of the rest, and before it
nothing has changed. -/
theorem containsFrom_step {inside next answer : Bool} {point n : Nat} {rest : List Nat}
    (before : n < point → answer = inside ∧ ∀ p ∈ rest, n < p)
    (behind : point ≤ n → containsFrom next rest n = answer) :
    containsFrom inside (keepIf (inside != next) point rest) n = answer := by
  rw [containsFrom_keepIf]
  by_cases hn : n < point
  · obtain ⟨ha, hr⟩ := before hn
    rw [containsFrom_of_forall_lt hr, ha]
    by_cases h : inside = next <;> simp [h, hn]
  · simp [hn, behind (Nat.not_lt.mp hn)]

theorem containsFrom_combineRight {f : Bool → Bool → Bool} {a b : Bool} {ys : List Nat}
    (hy : ys.Pairwise (· < ·)) (n : Nat) :
    containsFrom (f a b) (combineRight f a b ys) n = f a (containsFrom b ys n) := by
  induction ys generalizing b with
  | nil => simp [combineRight, containsFrom]
  | cons y ys ih =>
    rw [List.pairwise_cons] at hy
    refine containsFrom_step (fun h => ⟨?_, fun p hp => ?_⟩) fun h => ?_
    · rw [containsFrom_of_lt h]
    · exact Nat.lt_trans h (hy.1 p (mem_combineRight hp))
    · rw [ih hy.2, containsFrom_of_le h]

theorem containsFrom_combineBefore {f : Bool → Bool → Bool} {a b : Bool} {x : Nat}
    {xs ys : List Nat} {next : Bool → List Nat → List Nat} {n : Nat}
    (hmem : ∀ b ys p, p ∈ next b ys → p ∈ xs ∨ p ∈ ys)
    (hnext : ∀ b ys, ys.Pairwise (· < ·) →
      containsFrom (f (!a) b) (next b ys) n = f (containsFrom (!a) xs n) (containsFrom b ys n))
    (hx : (x :: xs).Pairwise (· < ·)) (hy : ys.Pairwise (· < ·)) :
    containsFrom (f a b) (combineBefore f a x next b ys) n =
      f (containsFrom a (x :: xs) n) (containsFrom b ys n) := by
  have hx' := (List.pairwise_cons.mp hx).1
  -- on the second list, as the first one stays until its change comes first
  induction ys generalizing b with
  | nil =>
    refine containsFrom_step (fun h => ⟨?_, fun p hp => ?_⟩) fun h => ?_
    · rw [containsFrom_of_lt h]
      simp [containsFrom]
    · rcases hmem _ _ _ hp with hp | hp
      · exact Nat.lt_trans h (hx' p hp)
      · simp at hp
    · rw [hnext _ _ hy, containsFrom_of_le h]
  | cons y ys ih =>
    have hy' := List.pairwise_cons.mp hy
    simp only [combineBefore]
    split
    · next hlt =>
      -- the first list changes first
      refine containsFrom_step (fun h => ⟨?_, fun p hp => ?_⟩) fun h => ?_
      · rw [containsFrom_of_lt h, containsFrom_of_lt (Nat.lt_trans h hlt)]
      · rcases hmem _ _ _ hp with hp | hp
        · exact Nat.lt_trans h (hx' p hp)
        · rcases List.mem_cons.mp hp with rfl | hp
          · exact Nat.lt_trans h hlt
          · exact Nat.lt_trans (Nat.lt_trans h hlt) (hy'.1 p hp)
      · rw [hnext _ _ hy, containsFrom_of_le h]
    · next hnlt =>
      split
      · next hlt =>
        -- the second one does
        refine containsFrom_step (fun h => ⟨?_, fun p hp => ?_⟩) fun h => ?_
        · rw [containsFrom_of_lt h, containsFrom_of_lt (Nat.lt_trans h hlt)]
        · rcases mem_combineBefore (fun b ys => hmem b ys p) hp with hp | hp
          · rcases List.mem_cons.mp hp with rfl | hp
            · exact Nat.lt_trans h hlt
            · exact Nat.lt_trans (Nat.lt_trans h hlt) (hx' p hp)
          · exact Nat.lt_trans h (hy'.1 p hp)
        · rw [ih hy'.2, containsFrom_of_le h]
      · next hnlt' =>
        -- both change at once
        have hxy : x = y := by omega
        subst hxy
        refine containsFrom_step (fun h => ⟨?_, fun p hp => ?_⟩) fun h => ?_
        · rw [containsFrom_of_lt h, containsFrom_of_lt h]
        · rcases hmem _ _ _ hp with hp | hp
          · exact Nat.lt_trans h (hx' p hp)
          · exact Nat.lt_trans h (hy'.1 p hp)
        · rw [hnext _ _ hy'.2, containsFrom_of_le h, containsFrom_of_le h]

/-- The merge of ascending lists answers as the operation does on the two answers. -/
theorem containsFrom_combineFrom {f : Bool → Bool → Bool} {a b : Bool} {xs ys : List Nat}
    (hx : xs.Pairwise (· < ·)) (hy : ys.Pairwise (· < ·)) (n : Nat) :
    containsFrom (f a b) (combineFrom f a xs b ys) n =
      f (containsFrom a xs n) (containsFrom b ys n) := by
  induction xs generalizing a b ys with
  | nil =>
    rw [combineFrom, containsFrom_combineRight hy]
    simp [containsFrom]
  | cons x xs ih =>
    exact containsFrom_combineBefore (fun _ _ _ => mem_combineFrom)
      (fun _ _ hy => ih (List.pairwise_cons.mp hx).2 hy) hx hy

/-- A combined set holds a character as the operation says. -/
theorem contains_combine {f : Bool → Bool → Bool} (h : f false false = false)
    {s t : CodePointSet} (hs : s.changes.Pairwise (· < ·)) (ht : t.changes.Pairwise (· < ·))
    (c : Char) : (combine f s t).contains c = f (s.contains c) (t.contains c) := by
  have := containsFrom_combineFrom (f := f) (a := false) (b := false) hs ht c.toNat
  rw [h] at this
  exact this

/-- A difference holds what the first side holds and the second does not. -/
theorem contains_diff {s t : CodePointSet} (hs : s.changes.Pairwise (· < ·))
    (ht : t.changes.Pairwise (· < ·)) (c : Char) :
    (s.diff t).contains c = (s.contains c && !t.contains c) :=
  contains_combine (f := fun a b => a && !b) rfl hs ht c

/-- All characters are members of the set of all characters. -/
theorem contains_all (c : Char) : all.contains c = true := by
  have hvalid : c.toNat < 55296 ∨ 57343 < c.toNat ∧ c.toNat < 1114112 := c.valid
  rw [contains, holds, all, containsFrom_of_le (Nat.zero_le _)]
  obtain hlow | ⟨hhigh, hlast⟩ := hvalid
  · rw [containsFrom_of_lt hlow, Bool.not_false]
  · rw [containsFrom_of_le (by omega), containsFrom_of_le hhigh, containsFrom_of_lt hlast]
    rfl

/-- A complement holds what the set does not. -/
theorem contains_compl {s : CodePointSet} (hs : s.changes.Pairwise (· < ·)) (c : Char) :
    s.compl.contains c = !s.contains c := by
  have hall : all.changes.Pairwise (· < ·) := by decide
  rw [compl, contains_diff hall hs, contains_all, Bool.true_and]

end CodePointSet

end DocQuery.Text
