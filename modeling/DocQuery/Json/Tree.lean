/-!
# Members and Trees

The members of an object are pairs of a name and a value in the order in which they were
added.  Setting a member that is there keeps its place; setting a new one adds it at the end.

A JSON text is a finite tree.  Numbers keep apart whole numbers and floating-point numbers, and
the members of an object keep their order.

## Main definitions

- `Members`: the members of an object
- `Tree`: a JSON text

## Main statements

- `get?_set`, `get?_remove`: what the operations do to a member
- `isSome_get?`, `mem_values_of_get?`: which members can be looked up
- `set_append_cons`, `set_of_notMem`: where a member that is set stands
- `set_set`, `remove_set`: of two changes to one member the last one counts
- `names_set`, `names_remove`: what they do to the list of names
- `nodup_set`, `nodup_remove`, `nodup_ofPairs`: distinct names stay distinct
- `mem_values_ofPairs`: where the values of new members come from
-/

namespace DocQuery.Json

/-- Members in the order in which they were added. -/
abbrev Members (α : Type) := List (String × α)

namespace Members

variable {α : Type}

/-- The names of the members. -/
def names (ms : Members α) : List String := ms.map Prod.fst

/-- The values of the members. -/
def values (ms : Members α) : List α := ms.map Prod.snd

/-- The value of the member `name`. -/
def get? : Members α → String → Option α
  | [], _ => none
  | (n, a) :: ms, name => if n = name then some a else get? ms name

/-- Sets the member `name` to `a`. -/
def set : Members α → String → α → Members α
  | [], name, a => [(name, a)]
  | (n, b) :: ms, name, a => if n = name then (n, a) :: ms else (n, b) :: set ms name a

/-- Takes the member `name` out; the others keep their order. -/
def remove (ms : Members α) (name : String) : Members α := ms.filter (·.1 != name)

/-- The members of `pairs`, set one after the other. -/
def ofPairs (pairs : List (String × α)) : Members α :=
  pairs.foldl (fun ms p => set ms p.1 p.2) []

/-! ## Looking up -/

theorem get?_set (ms : Members α) (name other : String) (a : α) :
    (set ms name a).get? other = if name = other then some a else ms.get? other := by
  induction ms with
  | nil => simp [set, get?]
  | cons m ms ih =>
    obtain ⟨n, b⟩ := m
    by_cases h : n = name
    · subst h
      by_cases ho : n = other <;> simp [set, get?, ho]
    · by_cases ho : n = other
      · subst ho
        simp [set, get?, h, Ne.symm h]
      · simp [set, get?, h, ho, ih]

theorem get?_remove (ms : Members α) (name other : String) :
    (remove ms name).get? other = if name = other then none else ms.get? other := by
  induction ms with
  | nil => simp [remove, get?]
  | cons m ms ih =>
    obtain ⟨n, b⟩ := m
    simp only [remove] at ih
    by_cases h : n = name
    · subst h
      by_cases ho : n = other
      · simpa [ho, remove] using ih
      · simpa [remove, get?, ho] using ih
    · by_cases ho : n = other
      · subst ho
        simp [remove, get?, h, Ne.symm h]
      · simp [remove, get?, h, ho, ih]

/-- A member can be looked up exactly when its name is in the list. -/
theorem isSome_get? (ms : Members α) (name : String) :
    (ms.get? name).isSome = true ↔ name ∈ ms.names := by
  induction ms with
  | nil => simp [get?, names]
  | cons m ms ih =>
    obtain ⟨n, b⟩ := m
    by_cases h : n = name
    · simp [get?, names, h]
    · simp only [get?, h, if_false, ih, names, List.map_cons, List.mem_cons]
      constructor
      · exact Or.inr
      · rintro (rfl | h')
        · exact absurd rfl h
        · exact h'

theorem mem_values_of_get? {ms : Members α} {name : String} {a : α} (h : ms.get? name = some a) :
    a ∈ ms.values := by
  induction ms with
  | nil => cases h
  | cons m ms ih =>
    rw [get?] at h
    split at h
    · rw [← Option.some.inj h]
      exact List.mem_cons_self
    · exact List.mem_cons_of_mem _ (ih h)

/-! ## Places -/

/-- A member that is there keeps its place. -/
theorem set_append_cons {before : Members α} {name : String} (h : name ∉ before.names) (a b : α)
    (after : Members α) :
    set (before ++ (name, a) :: after) name b = before ++ (name, b) :: after := by
  induction before with
  | nil => simp [set]
  | cons m before ih =>
    simp only [names, List.map_cons, List.mem_cons, not_or] at h
    obtain ⟨hne, hrest⟩ := h
    rw [List.cons_append, List.cons_append, set, if_neg (Ne.symm hne), ih hrest]

/-- A new member comes last. -/
theorem set_of_notMem {ms : Members α} {name : String} (h : name ∉ ms.names) (a : α) :
    set ms name a = ms ++ [(name, a)] := by
  induction ms with
  | nil => rfl
  | cons m ms ih =>
    simp only [names, List.map_cons, List.mem_cons, not_or] at h
    obtain ⟨hne, hrest⟩ := h
    rw [set, if_neg (Ne.symm hne), ih hrest, List.cons_append]

/-- What is set under a name stands under it, and the other members were there before. -/
theorem mem_set {ms : Members α} {name : String} {a : α} {m : String × α}
    (h : m ∈ set ms name a) : m = (name, a) ∨ m ∈ ms := by
  induction ms with
  | nil => exact .inl (List.mem_singleton.mp h)
  | cons n ms ih =>
    rw [set] at h
    split at h
    · next hname =>
      rcases List.mem_cons.mp h with rfl | h
      · exact .inl (by rw [hname])
      · exact .inr (List.mem_cons_of_mem n h)
    · rcases List.mem_cons.mp h with rfl | h
      · exact .inr List.mem_cons_self
      · exact (ih h).imp_right (List.mem_cons_of_mem n)

/-! ## Two changes -/

theorem set_set (ms : Members α) (name : String) (a b : α) :
    set (set ms name a) name b = set ms name b := by
  induction ms with
  | nil => simp [set]
  | cons m ms ih =>
    by_cases h : m.1 = name
    · simp [set, h]
    · simp [set, h, ih]

theorem remove_set (ms : Members α) (name : String) (a : α) :
    remove (set ms name a) name = remove ms name := by
  induction ms with
  | nil => simp [set, remove]
  | cons m ms ih =>
    simp only [remove] at ih ⊢
    by_cases h : m.1 = name
    · simp [set, h]
    · simp [set, h, ih]

theorem remove_remove (ms : Members α) (name : String) :
    remove (remove ms name) name = remove ms name := by
  simp [remove]

/-! ## Names -/

theorem names_set (ms : Members α) (name : String) (a : α) :
    (set ms name a).names = if name ∈ ms.names then ms.names else ms.names ++ [name] := by
  induction ms with
  | nil => simp [set, names]
  | cons m ms ih =>
    obtain ⟨n, b⟩ := m
    simp only [names] at ih
    by_cases h : n = name
    · subst h; simp [set, names]
    · by_cases hm : name ∈ ms.map Prod.fst <;>
        simp [set, names, h, ih, hm, Ne.symm h]

theorem names_remove (ms : Members α) (name : String) :
    (remove ms name).names = ms.names.filter (· != name) := by
  simp [remove, names, List.filter_map, Function.comp_def]

theorem nodup_set {ms : Members α} (h : ms.names.Nodup) (name : String) (a : α) :
    (set ms name a).names.Nodup := by
  rw [names_set]
  split
  · exact h
  · next hn =>
    refine List.nodup_append.mpr ⟨h, by simp, ?_⟩
    intro x hx y hy e
    simp only [List.mem_singleton] at hy
    exact hn (hy ▸ e ▸ hx)

theorem nodup_remove {ms : Members α} (h : ms.names.Nodup) (name : String) :
    (remove ms name).names.Nodup := by
  rw [names_remove]
  exact h.filter _

/-- Members that were set one after the other have distinct names. -/
theorem nodup_ofPairs (pairs : List (String × α)) : (ofPairs pairs).names.Nodup := by
  have go : ∀ (ps : List (String × α)) (ms : Members α), ms.names.Nodup →
      (ps.foldl (fun ms p => set ms p.1 p.2) ms).names.Nodup := by
    intro ps
    induction ps with
    | nil => exact fun _ h => h
    | cons p ps ih => exact fun ms h => ih _ (nodup_set h p.1 p.2)
  exact go pairs [] (by simp [names])

/-- The values of members that were set one after the other are among those that were set. -/
theorem mem_values_ofPairs {pairs : List (String × α)} {a : α} (h : a ∈ (ofPairs pairs).values) :
    a ∈ pairs.map Prod.snd := by
  have go : ∀ (ps : List (String × α)) (ms : Members α),
      a ∈ values (ps.foldl (fun ms p => set ms p.1 p.2) ms) →
        a ∈ ms.values ∨ a ∈ ps.map Prod.snd := by
    intro ps
    induction ps with
    | nil => exact fun _ => .inl
    | cons p ps ih =>
      intro ms hmem
      rcases ih _ hmem with hset | hrest
      · obtain ⟨m, hm, rfl⟩ := List.mem_map.mp hset
        rcases mem_set hm with rfl | hold
        · exact .inr List.mem_cons_self
        · exact .inl (List.mem_map_of_mem hold)
      · exact .inr (List.mem_cons_of_mem _ hrest)
  exact (go pairs [] h).resolve_left List.not_mem_nil

end Members

/-! ## Trees -/

/-- A number in a JSON text. -/
inductive Number where
  /-- A whole number of at most 64 bits, with or without a sign -/
  | integer (n : Int)
  /-- A floating-point number -/
  | float (x : Float)
deriving DecidableEq

/-- A JSON text as a tree. -/
inductive Tree where
  | null
  | bool (b : Bool)
  | number (n : Number)
  | string (s : String)
  | array (items : List Tree)
  | object (members : List (String × Tree))

/-- How deeply arrays and objects may nest when they are read. -/
def maxDepth : Nat := 127

end DocQuery.Json
