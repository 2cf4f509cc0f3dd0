import Mathlib
import DocQuery.Query.Navigate
import DocQuery.Proofs.Store.Reachability

/-!
# What a Search Visits

A search visits each container that can be reached from its start exactly once, also where
containers are shared or lie below themselves.  So it yields what each of these containers
yields, once.  Where no container is shared, they are visited in the order of the document.

The invariant of the search ties its data together: the containers visited so far and those on
the stack are distinct, they are the ones that have been seen, all but the start were seen as
children of visited ones, and the children of visited ones have been seen.

## Main definitions

- `Search`: the invariant
- `Unshared`: each container below a start lies in one place only
- `Preorder`: the order of the document

## Main statements

- `search_step`, `search_run`: the invariant is kept, and what it says at the end
- `descend_visits_reached_once`: what a search visits, in which order, and what it yields
-/

namespace DocQuery.Store

variable {s : Store} {start g h : Handle} {stack seen visited : List Handle}

/-! ## Scheduling -/

/-- The containers of the store among some values. -/
def containers (s : Store) (values : List Value) : List Handle :=
  (values.filterMap Value.handle?).filter fun h => h.index < s.size

theorem mem_containers {values : List Value} :
    h ∈ s.containers values ↔ h.index < s.size ∧ .container h ∈ values := by
  have hhandle : ∀ v : Value, v.handle? = some h ↔ v = .container h := by
    intro v
    cases v <;> simp [Value.handle?]
  simp [containers, hhandle, and_comm]

theorem child_iff_mem_containers : s.Child g h ↔ h ∈ s.containers (s.cell g).children :=
  mem_containers.symm

theorem containers_cons (s : Store) (h : Handle) (values : List Value) :
    s.containers (.container h :: values) =
      if h.index < s.size then h :: s.containers values else s.containers values := by
  simp [containers, Value.handle?, List.filter_cons]

theorem schedule_cons (s : Store) (h : Handle) (children : List Value)
    (state : List Handle × List Handle) :
    s.schedule (.container h :: children) state =
      if h.index < s.size ∧ (s.schedule children state).2.contains h = false then
        (h :: (s.schedule children state).1, h :: (s.schedule children state).2)
      else s.schedule children state := rfl

/-- Those containers among the children go on the stack that have not been seen, each once and
in their order. -/
theorem exists_schedule (s : Store) (children : List Value) (stack seen : List Handle) :
    ∃ fresh, s.schedule children (stack, seen) = (fresh ++ stack, fresh ++ seen) ∧
      fresh.Nodup ∧ fresh.Sublist (s.containers children) ∧ (∀ h ∈ fresh, h ∉ seen) ∧
      ∀ h ∈ s.containers children, h ∈ fresh ∨ h ∈ seen := by
  -- on the children, of which the last goes on the stack first
  induction children with
  | nil => exact ⟨[], rfl, .nil, .slnil, by simp, by simp [containers]⟩
  | cons child children ih =>
    obtain ⟨fresh, hschedule, hnodup, hsublist, hnew, hall⟩ := ih
    cases child with
    | container k =>
      rw [schedule_cons, hschedule, containers_cons]
      by_cases hk : k.index < s.size ∧ (fresh ++ seen).contains k = false
      · have hmem : k ∉ fresh ∧ k ∉ seen := by simpa using hk.2
        rw [if_pos hk, if_pos hk.1]
        refine ⟨k :: fresh, rfl, List.nodup_cons.mpr ⟨hmem.1, hnodup⟩, hsublist.cons_cons k,
          fun h hh => ?_, fun h hh => ?_⟩
        · rcases List.mem_cons.mp hh with rfl | hh
          · exact hmem.2
          · exact hnew h hh
        · rcases List.mem_cons.mp hh with rfl | hh
          · exact .inl List.mem_cons_self
          · exact (hall h hh).imp_left (List.mem_cons_of_mem k)
      · -- what is left out has no cell, or was seen before
        rw [if_neg hk]
        refine ⟨fresh, rfl, hnodup, ?_, hnew, fun h hh => ?_⟩
        · split
          · exact hsublist.cons k
          · exact hsublist
        · split at hh
          · next hsize =>
            rcases List.mem_cons.mp hh with rfl | hh
            · have hseen : (fresh ++ seen).contains h = true := by
                by_contra hcontains
                exact hk ⟨hsize, Bool.not_eq_true _ ▸ hcontains⟩
              simpa using hseen
            · exact hall h hh
          · exact hall h hh
    | _ => exact ⟨fresh, hschedule, hnodup, hsublist, hnew, hall⟩

/-! ## The invariant -/

/-- What a search keeps while it runs: the containers visited so far, those on the stack and
those seen. -/
structure Search (s : Store) (start : Handle) (visited stack seen : List Handle) : Prop where
  /-- No container is visited twice -/
  nodup : (visited ++ stack).Nodup
  /-- What has been seen was visited or is on the stack -/
  mem_seen_iff : ∀ h, h ∈ seen ↔ h ∈ visited ∨ h ∈ stack
  /-- The search starts at the start -/
  start_mem : start ∈ seen
  /-- All else is found below what was visited -/
  exists_parent : ∀ h ∈ seen, h = start ∨ ∃ g ∈ visited, s.Child g h
  /-- What lies in a visited container has been seen -/
  closed : ∀ g ∈ visited, ∀ h, s.Child g h → h ∈ seen
  /-- Everything seen can be reached -/
  reaches : ∀ h ∈ seen, s.Reaches start h

theorem search_init (s : Store) (start : Handle) : Search s start [] [start] [start] where
  nodup := List.nodup_singleton start
  mem_seen_iff h := by simp
  start_mem := List.mem_singleton_self start
  exists_parent h hh := .inl (List.mem_singleton.mp hh)
  closed g hg := absurd hg List.not_mem_nil
  reaches h hh := by
    rw [List.mem_singleton.mp hh]
    exact .refl

/-- Visiting the container on top of the stack keeps the invariant. -/
theorem search_step (hsearch : Search s start visited (h :: stack) seen) :
    Search s start (visited ++ [h]) (s.schedule (s.cell h).children (stack, seen)).1
      (s.schedule (s.cell h).children (stack, seen)).2 := by
  obtain ⟨fresh, hschedule, hnodup, hsublist, hnew, hall⟩ :=
    exists_schedule s (s.cell h).children stack seen
  rw [hschedule]
  have hseen : h ∈ seen := (hsearch.mem_seen_iff h).mpr (.inr List.mem_cons_self)
  have hchild : ∀ k ∈ fresh, s.Child h k := fun k hk =>
    child_iff_mem_containers.mpr (hsublist.subset hk)
  constructor
  case nodup =>
    -- what is new is on neither list, since everything there has been seen
    have hdisjoint : ∀ k ∈ fresh, k ∉ visited ++ h :: stack := fun k hk hmem =>
      hnew k hk ((hsearch.mem_seen_iff k).mpr (List.mem_append.mp hmem))
    have hperm : (visited ++ [h] ++ (fresh ++ stack)).Perm (fresh ++ (visited ++ h :: stack)) := by
      rw [List.append_cons visited h stack]
      exact List.perm_append_comm_assoc _ _ _
    exact hperm.nodup_iff.mpr (List.nodup_append'.mpr
      ⟨hnodup, hsearch.nodup, fun k hk => hdisjoint k hk⟩)
  case mem_seen_iff =>
    intro k
    have hstack := hsearch.mem_seen_iff k
    simp only [List.mem_append, List.mem_cons, List.not_mem_nil, or_false] at hstack ⊢
    rw [hstack]
    constructor
    · rintro (hk | hk | hk | hk)
      · exact .inr (.inl hk)
      · exact .inl (.inl hk)
      · exact .inl (.inr hk)
      · exact .inr (.inr hk)
    · rintro ((hk | hk) | hk | hk)
      · exact .inr (.inl hk)
      · exact .inr (.inr (.inl hk))
      · exact .inl hk
      · exact .inr (.inr (.inr hk))
  case start_mem => exact List.mem_append_right _ hsearch.start_mem
  case exists_parent =>
    intro k hk
    rcases List.mem_append.mp hk with hk | hk
    · exact .inr ⟨h, List.mem_append_right _ (List.mem_singleton_self h), hchild k hk⟩
    · refine (hsearch.exists_parent k hk).imp_right ?_
      rintro ⟨g, hg, hgk⟩
      exact ⟨g, List.mem_append_left _ hg, hgk⟩
  case closed =>
    -- for the container just visited, scheduling has seen to it
    intro g hg k hgk
    rcases List.mem_append.mp hg with hg | hg
    · exact List.mem_append_right _ (hsearch.closed g hg k hgk)
    · obtain rfl := List.mem_singleton.mp hg
      exact List.mem_append.mpr (hall k (child_iff_mem_containers.mp hgk))
  case reaches =>
    intro k hk
    rcases List.mem_append.mp hk with hk | hk
    · exact (hsearch.reaches h hseen).tail (hchild k hk)
    · exact hsearch.reaches k hk

/-- Where the stack is empty, exactly the containers that can be reached were visited. -/
theorem Search.mem_visited_iff (hsearch : Search s start visited [] seen) :
    h ∈ visited ↔ s.Reaches start h := by
  have hseen : ∀ k, k ∈ seen ↔ k ∈ visited := fun k => by
    rw [hsearch.mem_seen_iff k]
    simp
  constructor
  · intro hh
    exact hsearch.reaches h ((hseen h).mpr hh)
  · intro hreach
    -- what was visited contains the start and all that lies in it
    induction hreach with
    | refl => exact (hseen start).mp hsearch.start_mem
    | tail _ hchild ih => exact (hseen _).mp (hsearch.closed _ ih _ hchild)

/-- From any state that satisfies the invariant, the search goes on to visit what is left. -/
theorem search_run (hsearch : Search s start visited stack seen) :
    (visited ++ s.visitFrom stack seen).Nodup ∧
      ∀ h, h ∈ visited ++ s.visitFrom stack seen ↔ s.Reaches start h := by
  -- along the run: every visit moves the container on top of the stack to the visited ones
  induction stack, seen using visitFrom.induct s generalizing visited with
  | case1 seen =>
    rw [visitFrom, List.append_nil]
    have hnodup := hsearch.nodup
    rw [List.append_nil] at hnodup
    exact ⟨hnodup, fun h => hsearch.mem_visited_iff⟩
  | case2 seen h rest ih =>
    have hrest := ih (search_step hsearch)
    rw [List.append_assoc] at hrest
    rw [visitFrom]
    exact hrest

theorem nodup_visit (s : Store) (start : Handle) : (s.visit start).Nodup :=
  (search_run (search_init s start)).1

theorem mem_visit_iff : h ∈ s.visit start ↔ s.Reaches start h :=
  (search_run (search_init s start)).2 h

/-- The search ends after at most one visit to each container of the store. -/
theorem length_visit_le (hstart : start.index < s.size) : (s.visit start).length ≤ s.size := by
  have hindex : ∀ h ∈ s.visit start, h.index < s.size := by
    intro h hh
    rcases Relation.ReflTransGen.cases_tail (mem_visit_iff.mp hh) with rfl | ⟨g, -, hchild⟩
    · exact hstart
    · exact hchild.1
  have hinjective : Function.Injective Handle.index := fun g h heq => congrArg Handle.mk heq
  have hnodup : ((s.visit start).map Handle.index).Nodup := (nodup_visit s start).map hinjective
  have hsubset : (s.visit start).map Handle.index ⊆ List.range s.size := by
    intro i hi
    obtain ⟨h, hh, rfl⟩ := List.mem_map.mp hi
    exact List.mem_range.mpr (hindex h hh)
  have hlength := (hnodup.subperm hsubset).length_le
  rwa [List.length_map, List.length_range] at hlength

/-! ## Document order -/

/-- Below the start each container lies in one place only, and the start in none. -/
structure Unshared (s : Store) (start : Handle) : Prop where
  /-- The start does not lie below itself -/
  start_notMem : ∀ g, s.Reaches start g → ¬s.Child g start
  /-- No container holds another one twice -/
  nodup : ∀ g, s.Reaches start g → (s.containers (s.cell g).children).Nodup
  /-- No two containers hold the same one -/
  parent_unique : ∀ g, s.Reaches start g → ∀ k, s.Reaches start k → ∀ h, s.Child g h →
    s.Child k h → g = k

/-- The containers in and below those of a list, in the order of the document: each of the list
comes before those in it, and these come before the next of the list. -/
inductive Preorder (s : Store) : List Handle → List Handle → Prop where
  /-- There is nothing in an empty list -/
  | nil : Preorder s [] []
  /-- A container, all below it, and then the others -/
  | cons {h : Handle} {rest below after : List Handle} :
      Preorder s (s.containers (s.cell h).children) below → Preorder s rest after →
        Preorder s (h :: rest) (h :: (below ++ after))

theorem Preorder.of_append {front back order : List Handle}
    (hpreorder : Preorder s (front ++ back) order) :
    ∃ first last, order = first ++ last ∧ Preorder s front first ∧ Preorder s back last := by
  induction front generalizing order with
  | nil => exact ⟨[], order, rfl, .nil, hpreorder⟩
  | cons h front ih =>
    cases hpreorder with
    | cons hbelow hafter =>
      obtain ⟨first, last, rfl, hfirst, hlast⟩ := ih hafter
      exact ⟨_, last, by simp, .cons hbelow hfirst, hlast⟩

/-- Where nothing is shared, all containers in the one visited are new. -/
theorem schedule_of_unshared (hunshared : Unshared s start)
    (hsearch : Search s start visited (h :: stack) seen) :
    s.schedule (s.cell h).children (stack, seen) =
      (s.containers (s.cell h).children ++ stack, s.containers (s.cell h).children ++ seen) := by
  obtain ⟨fresh, hschedule, -, hsublist, -, hall⟩ :=
    exists_schedule s (s.cell h).children stack seen
  have hreach : s.Reaches start h :=
    hsearch.reaches h ((hsearch.mem_seen_iff h).mpr (.inr List.mem_cons_self))
  have hnew : ∀ k ∈ s.containers (s.cell h).children, k ∉ seen := by
    intro k hk hseen
    have hchild : s.Child h k := child_iff_mem_containers.mpr hk
    rcases hsearch.exists_parent k hseen with rfl | ⟨g, hg, hgk⟩
    · exact hunshared.start_notMem h hreach hchild
    · -- a visited container would hold the same one, but the one on the stack is not visited
      have hgreach : s.Reaches start g :=
        hsearch.reaches g ((hsearch.mem_seen_iff g).mpr (.inl hg))
      obtain rfl : g = h := hunshared.parent_unique g hgreach h hreach k hgk hchild
      exact (List.nodup_append'.mp hsearch.nodup).2.2 hg List.mem_cons_self
  have hsubset : s.containers (s.cell h).children ⊆ fresh := fun k hk =>
    (hall k hk).resolve_right (hnew k hk)
  have hfresh : fresh = s.containers (s.cell h).children :=
    hsublist.eq_of_length_le ((hunshared.nodup h hreach).subperm hsubset).length_le
  rw [hschedule, hfresh]

/-- Then the search goes through what is left in the order of the document. -/
theorem preorder_visitFrom (hunshared : Unshared s start)
    (hsearch : Search s start visited stack seen) : Preorder s stack (s.visitFrom stack seen) := by
  induction stack, seen using visitFrom.induct s generalizing visited with
  | case1 seen =>
    rw [visitFrom]
    exact .nil
  | case2 seen h rest ih =>
    have hrest := ih (search_step hsearch)
    rw [visitFrom]
    rw [schedule_of_unshared hunshared hsearch] at hrest ⊢
    -- what the container holds is on top of the stack, so it comes before the rest of the stack
    obtain ⟨below, after, horder, hbelow, hafter⟩ := hrest.of_append
    rw [horder]
    exact .cons hbelow hafter

/-! ## What a search yields -/

/-- The hit of a walk from a container.  An error is no hit. -/
def hit? (s : Store) (names : List String) (h : Handle) : Option Value :=
  match s.navigate names (.container h) with
  | .ok hit => hit
  | .error _ => none

/-- The children of a container that are no containers. -/
def scalars (s : Store) (h : Handle) : List Value :=
  (s.cell h).children.filter fun v => !v.isContainer

theorem harvest_some (names : List String) :
    s.harvest (some names) h = (s.hit? names h).toList := by
  rw [harvest, hit?]
  split
  · next heq => simp [heq]
  · next hne =>
    split
    · next hit heq =>
      cases hit with
      | none => rfl
      | some v => exact absurd heq (hne v)
    · rfl

/-- From any start a search visits exactly the containers that can be reached, each once, and
ends after at most one visit to each.  Whatever the order they are listed in, it yields the hit
of each of them, or each of them with its scalars.  Where no container is shared they are visited
in the order of the document. -/
theorem descend_visits_reached_once (s : Store) (start : Handle) :
    (s.visit start).Nodup ∧ (∀ h, h ∈ s.visit start ↔ s.Reaches start h) ∧
      (start.index < s.size → (s.visit start).length ≤ s.size) ∧
      (∀ reached : List Handle, reached.Nodup → (∀ h, h ∈ reached ↔ s.Reaches start h) →
        (∀ names, (s.descend (some names) (.container start)).Perm
          (reached.filterMap (s.hit? names))) ∧
        (s.descend none (.container start)).Perm
          (reached.flatMap fun h => .container h :: s.scalars h)) ∧
      (Unshared s start → Preorder s [start] (s.visit start)) := by
  refine ⟨nodup_visit s start, fun h => mem_visit_iff, length_visit_le, ?_, fun hunshared =>
    preorder_visitFrom hunshared (search_init s start)⟩
  intro reached hnodup hreached
  -- any two lists without repetition that hold the same containers are permutations
  have hperm : (s.visit start).Perm reached :=
    (List.perm_ext_iff_of_nodup (nodup_visit s start) hnodup).mpr fun h =>
      mem_visit_iff.trans (hreached h).symm
  constructor
  · intro names
    have hyield : s.descend (some names) (.container start) =
        (s.visit start).filterMap (s.hit? names) := by
      rw [descend, List.filterMap_eq_flatMap_toList]
      exact List.flatMap_congr fun h _ => harvest_some names
    rw [hyield]
    exact hperm.filterMap _
  · exact hperm.flatMap_right _

/-- An object with an array and an object in it: the array and what lies in it come first. -/
theorem descend_visits_reached_once_tree :
    let s : Store := ⟨#[.object [("a", .container ⟨1⟩), ("b", .container ⟨2⟩)],
      .array [.integer 7, .container ⟨3⟩], .object [("c", .bool true)], .array []]⟩
    let reached : List Handle := [⟨0⟩, ⟨1⟩, ⟨3⟩, ⟨2⟩]
    (s.visit ⟨0⟩).length ≤ 4 ∧ Unshared s ⟨0⟩ ∧ Preorder s [⟨0⟩] reached ∧
      (s.descend (some ["c"]) (.container ⟨0⟩)).Perm (reached.filterMap (s.hit? ["c"])) ∧
      (s.descend none (.container ⟨0⟩)).Perm
        (reached.flatMap fun h => .container h :: s.scalars h) := by
  intro s reached
  have hvisit : s.visit ⟨0⟩ = reached := by decide +kernel
  have hchild : ∀ g h, s.Child g h → (g, h) ∈ [((⟨0⟩ : Handle), (⟨1⟩ : Handle)), (⟨0⟩, ⟨2⟩),
      (⟨1⟩, ⟨3⟩)] := by
    intro g h hgh
    have hmem := hgh.2
    rcases g with ⟨_ | _ | _ | _ | i⟩
    case succ.succ.succ.succ => exact absurd hmem List.not_mem_nil
    all_goals simp_all [s, cell, Cell.children]
  have hunshared : Unshared s ⟨0⟩ := by
    refine ⟨fun g _ hg => ?_, fun g _ => ?_, fun g _ k _ h hg hk => ?_⟩
    · simpa using hchild g ⟨0⟩ hg
    · rcases g with ⟨_ | _ | _ | _ | i⟩
      case succ.succ.succ.succ => exact List.nodup_nil
      all_goals decide
    · have hfirst := hchild g h hg
      have hsecond := hchild k h hk
      simp only [List.mem_cons, Prod.mk.injEq, List.not_mem_nil, or_false] at hfirst hsecond
      rcases hfirst with ⟨rfl, rfl⟩ | ⟨rfl, rfl⟩ | ⟨rfl, rfl⟩ <;> simp_all
  obtain ⟨hnodup, hreached, hlength, hyield, hpreorder⟩ := descend_visits_reached_once s ⟨0⟩
  rw [hvisit] at hnodup hreached hpreorder
  obtain ⟨hsome, hnone⟩ := hyield reached hnodup hreached
  exact ⟨hlength (by decide), hunshared, hpreorder hunshared, hsome ["c"], hnone⟩

end DocQuery.Store
