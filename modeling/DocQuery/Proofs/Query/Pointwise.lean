import Mathlib
import DocQuery.Proofs.Query.Template

/-!
# Filters Go Element by Element

Whether a filter keeps an element of an array depends on the element and its place, and on nothing
else in the array.  An object does not depend on its place either, and fares as it does alone.  A
scalar has no members, and answers only to the number of its place.

This holds for every expression text.  An element for which the text cannot be completed, or cannot
be evaluated, is dropped like one for which it is false.

## Main statements

- `reference_mem_parts`: what looks like a reference in a text is one
- `filter_elementwise`: which elements of an array are kept
-/

namespace DocQuery

open DocQuery.Text
open DocQuery.Path (Ends ends_cons takeWhile_append_of_ends exists_eq_takeWhile_append)

namespace Template

variable {find? : List Char → Option (List Char)} {name rest cs text : List Char}
  {ps : List TemplatePart}

/-- A word before a reference does not run into it. -/
theorem takeWhile_append_reference (cs rest : List Char) :
    (cs ++ '@' :: rest).takeWhile isWord = cs.takeWhile isWord := by
  have hat : isWord '@' = false := isWord_eq_of_lt (by decide)
  rcases Nat.lt_or_ge (cs.takeWhile isWord).length cs.length with hlt | hge
  · obtain ⟨d, more, hd, hcs⟩ := exists_eq_takeWhile_append hlt
    have hrun : ∀ c ∈ cs.takeWhile isWord, isWord c = true := fun c hc => List.mem_takeWhile_imp hc
    calc (cs ++ '@' :: rest).takeWhile isWord
        = (cs.takeWhile isWord ++ d :: (more ++ '@' :: rest)).takeWhile isWord := by
          conv_lhs => rw [hcs]
          rw [List.append_assoc, List.cons_append]
      _ = cs.takeWhile isWord := takeWhile_append_of_ends hrun (ends_cons hd _)
  · have hall : cs.takeWhile isWord = cs :=
      (List.takeWhile_prefix isWord).eq_of_length_le hge
    have hrun : ∀ c ∈ cs, isWord c = true := fun c hc => List.mem_takeWhile_imp (hall.symm ▸ hc)
    rw [takeWhile_append_of_ends hrun (ends_cons hat _), hall]

/-- An at sign, a dot and a word are a reference, wherever they stand. -/
theorem reference_mem_parts (front : List Char) (hne : name ≠ [])
    (hname : ∀ c ∈ name, isWord c = true) (hrest : Ends isWord rest) :
    .reference name ∈ parts (front ++ '@' :: '.' :: (name ++ rest)) := by
  -- on the text before the reference, of which a piece may take several characters
  induction hlength : front.length using Nat.strongRecOn generalizing front with
  | ind n ih =>
    subst hlength
    cases front with
    | nil =>
      rw [List.nil_append, ← List.cons_append, ← List.cons_append, parts_reference hne hname hrest]
      exact List.mem_cons_self
    | cons c front =>
      by_cases hreference : ∃ more, c = '@' ∧ front = '.' :: more
      · obtain ⟨more, rfl, rfl⟩ := hreference
        rw [List.cons_append, List.cons_append, parts]
        simp only [takeWhile_append_reference]
        split
        · apply List.mem_cons_of_mem
          apply List.mem_cons_of_mem
          exact ih _ (by simp) more rfl
        · apply List.mem_cons_of_mem
          have hle : (more.takeWhile isWord).length ≤ more.length :=
            (List.takeWhile_prefix isWord).length_le
          rw [List.drop_append_of_le_length hle]
          exact ih _ (by simp [List.length_drop]; omega) _ rfl
      · rw [List.cons_append, parts]
        · apply List.mem_cons_of_mem
          exact ih _ (by simp) front rfl
        · rintro more rfl hfront
          cases front with
          | nil => cases hfront
          | cons d front =>
            cases hfront
            exact hreference ⟨front, rfl, rfl⟩

/-- A template is filled only if something is found for every reference. -/
theorem exists_of_fill?_eq_some (hfill : fill? find? ps = some text)
    (hmem : .reference name ∈ ps) : ∃ found, find? name = some found := by
  induction ps generalizing text with
  | nil => cases hmem
  | cons p ps ih =>
    rw [fill?] at hfill
    obtain ⟨first, hfirst, hmore⟩ := Option.bind_eq_some_iff.mp hfill
    obtain ⟨more, hrest, -⟩ := Option.bind_eq_some_iff.mp hmore
    rcases List.mem_cons.mp hmem with rfl | hmem
    · exact ⟨first, hfirst⟩
    · exact ih hrest hmem

end Template

namespace Store

variable {s : Store} {v : Value}

/-- A scalar passes only if all references are to its key. -/
theorem name_eq_of_test {expression key : String} {name : List Char}
    (hscalar : v.isContainer = false) (htest : s.test expression key v = true)
    (hmem : .reference name ∈ Template.parts expression.toList) : name = key.toList := by
  have hobject : s.isObject v = false := by
    cases v with
    | container h => cases hscalar
    | _ => rfl
  cases hinstance : s.instantiate? expression key v with
  | none =>
    rw [test, hinstance] at htest
    cases htest
  | some instance? =>
    obtain ⟨text, hfill, -⟩ := Option.map_eq_some_iff.mp hinstance
    obtain ⟨found, hfound⟩ := Template.exists_of_fill?_eq_some hfill hmem
    obtain ⟨w, hreferent, -⟩ := Option.bind_eq_some_iff.mp hfound
    rw [referent?, hobject, if_neg Bool.false_ne_true] at hreferent
    split at hreferent
    · next hkey =>
      rw [Bool.and_eq_true, beq_iff_eq] at hkey
      exact hkey.2
    · cases hreferent

theorem isArray_of_isObject (hobject : s.isObject v = true) :
    s.isArray v = false := by
  cases v with
  | container h => cases hcell : s.cell h <;> simp_all [isArray, isObject]
  | _ => rfl

/-- The key of an object is not looked at. -/
theorem test_of_isObject (hobject : s.isObject v = true)
    (expression key : String) : s.test expression key v = s.test expression "" v := by
  have hreferent : s.referent? key v = s.referent? "" v := by
    funext name
    rw [referent?, referent?, if_pos hobject, if_pos hobject]
  simp only [test, instantiate?, hreferent]

/-- Of an array of objects a filter keeps those that pass the test alone. -/
theorem filter_of_objects {h : Handle} {items : List Value}
    (hcell : s.cell h = .array items) (hobjects : ∀ v ∈ items, s.isObject v = true)
    (expression : String) :
    s.filter expression (.container h) = items.filter (s.test expression "") := by
  have hkeeps : ∀ item ∈ items.zipIdx,
      (!s.isArray item.1 && s.test expression (Nat.repr item.2) item.1) =
        s.test expression "" item.1 := by
    rintro ⟨v, i⟩ hitem
    have hobject := hobjects v (List.mem_of_getElem? (List.mem_zipIdx_iff_getElem?.mp hitem))
    dsimp only
    rw [isArray_of_isObject hobject, test_of_isObject hobject]
    rfl
  rw [filter_array hcell, List.filter_congr hkeeps]
  conv_rhs => rw [← List.zipIdx_map_fst 0 items, List.filter_map]
  rfl

/-- For every expression text there is a condition on a place and a value such that a filter keeps
of any array, in their order, the elements that satisfy it at their places.  It excludes arrays.
An object satisfies it at every place if the filter keeps the object alone.  A scalar satisfies it
at a place only if the number of the place is what stands behind the at sign and the dot in every
reference. -/
theorem filter_elementwise (s : Store) (expression : String) :
    ∃ keeps : Nat → Value → Bool,
      (∀ h items, s.cell h = .array items →
        s.filter expression (.container h) =
          (items.zipIdx.filter fun item => keeps item.2 item.1).map Prod.fst) ∧
      (∀ i v, s.isArray v = true → keeps i v = false) ∧
      (∀ i v, s.isObject v = true → (keeps i v = true ↔ s.filter expression v = [v])) ∧
      ∀ i v, v.isContainer = false → keeps i v = true →
        ∀ front name rest, expression.toList = front ++ '@' :: '.' :: (name ++ rest) →
          name ≠ [] → (∀ c ∈ name, isWord c = true) → Ends isWord rest →
            String.ofList name = Nat.repr i := by
  refine ⟨fun i v => !s.isArray v && s.test expression (Nat.repr i) v,
    fun h items hcell => filter_array hcell expression, ?_, ?_, ?_⟩
  · intro i v harray
    dsimp only
    rw [harray]
    rfl
  · intro i v hobject
    have harray := isArray_of_isObject hobject
    have hkey := test_of_isObject hobject expression (Nat.repr i)
    dsimp only
    rw [harray, hkey, filter_object hobject]
    cases s.test expression "" v <;> simp
  · intro i v hscalar hkeeps front name rest htext hne hname hrest
    rw [Bool.and_eq_true] at hkeeps
    have hmem : .reference name ∈ Template.parts expression.toList := by
      rw [htext]
      exact Template.reference_mem_parts front hne hname hrest
    rw [name_eq_of_test hscalar hkeeps.2 hmem, String.ofList_toList]

end Store

end DocQuery
