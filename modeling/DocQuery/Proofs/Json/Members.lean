import Mathlib
import DocQuery.Json.Tree

/-!
# Names and Values of Members

A list of members is made up of its names and its values, and what happens to all values leaves the
names alone.  Members with distinct names stay as they are when they are set one after the other.

## Main statements

- `ext_names_values`, `names_map`, `values_map`: names and values
- `filter_set`, `filter_remove`: members of other names
- `set_of_nodup`, `ofPairs_of_nodup`: setting members with distinct names
-/

namespace DocQuery.Json.Members

variable {α β : Type}

/-- The names and the values make up the members. -/
theorem ext_names_values {ms ns : Members α} (hnames : ms.names = ns.names)
    (hvalues : ms.values = ns.values) : ms = ns :=
  (List.zip_of_prod hnames hvalues).trans (List.zip_of_prod rfl rfl).symm

theorem names_map (f : α → β) (ms : Members α) :
    names (ms.map fun m => (m.1, f m.2)) = ms.names := by
  rw [names, names, List.map_map]
  rfl

theorem values_map (f : α → β) (ms : Members α) :
    values (ms.map fun m => (m.1, f m.2)) = ms.values.map f := by
  rw [values, values, List.map_map, List.map_map]
  rfl

/-- Members of other names stay when a member is set. -/
theorem filter_set {names : List String} {name : String} (hname : name ∈ names) (ms : Members α)
    (a : α) : (ms.set name a).filter (·.1 ∉ names) = ms.filter (·.1 ∉ names) := by
  induction ms with
  | nil => simp [set, hname]
  | cons m ms ih =>
    rw [set]
    split
    · next heq => simp [heq, hname]
    · simp only [List.filter_cons, ih]

/-- Members of other names stay when a member is taken out. -/
theorem filter_remove {names : List String} {name : String} (hname : name ∈ names)
    (ms : Members α) : (ms.remove name).filter (·.1 ∉ names) = ms.filter (·.1 ∉ names) := by
  rw [remove, List.filter_filter]
  refine List.filter_congr fun m _ => ?_
  by_cases hm : m.1 = name
  · simp [hm, hname]
  · simp [hm]

theorem remove_of_notMem {ms : Members α} {name : String} (hname : name ∉ ms.names) :
    ms.remove name = ms := by
  refine List.filter_eq_self.mpr fun m hm => bne_iff_ne.mpr ?_
  rintro rfl
  exact hname (List.mem_map_of_mem hm)

/-- A member whose name is not repeated comes behind those before it. -/
theorem set_of_nodup {before after : Members α} {name : String} {a : α}
    (hnames : (before ++ (name, a) :: after).names.Nodup) :
    before.set name a = before ++ [(name, a)] := by
  apply set_of_notMem
  rw [names, List.map_append, List.map_cons] at hnames
  exact fun hmem => (List.nodup_append.mp hnames).2.2 _ hmem _ List.mem_cons_self rfl

/-- Members with distinct names stay as they are when they are set one after the other. -/
theorem ofPairs_of_nodup {ms : Members α} (hnames : ms.names.Nodup) : ofPairs ms = ms := by
  have go : ∀ (ms before : Members α), (before ++ ms).names.Nodup →
      ms.foldl (fun ms p => set ms p.1 p.2) before = before ++ ms := by
    intro ms
    induction ms with
    | nil => exact fun before _ => (List.append_nil before).symm
    | cons m ms ih =>
      intro before hnodup
      rw [List.foldl_cons, set_of_nodup hnodup, ih, List.append_assoc, List.singleton_append]
      rwa [List.append_assoc, List.singleton_append]
  exact go ms [] hnames

end DocQuery.Json.Members
