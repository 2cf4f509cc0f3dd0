import Mathlib
import DocQuery.Edit.Write
import DocQuery.Proofs.Path.Row

/-!
# Dotted Words

A path of bare names with dots between them is read as one step along these names, and a target
of bare names is cut in front of the last of them.  So a name is found at the same place by
reading and by writing.

## Main definitions

- `IsBareName`: names that need no quotes
- `wordPath`: the path of a row of bare names

## Main statements

- `parse_wordPath`, `splitTarget_wordPath`: how such a path is read, as a path and as a target
-/

namespace DocQuery.Path

open DocQuery.Text DocQuery.Edit

/-- A name that needs no quotes: letters and digits of ASCII and low lines, at least one. -/
def IsBareName (name : String) : Prop :=
  name.toList ≠ [] ∧ ∀ c ∈ name.toList, isBareChar c = true

instance (name : String) : Decidable (IsBareName name) :=
  decidable_of_iff (name.toList ≠ [] ∧ name.toList.all isBareChar = true)
    (and_congr_right' List.all_eq_true)

/-- Bare names with dots between them. -/
def wordPath (names : List String) : String := String.ofList (join ['.'] (names.map String.toList))

variable {name : String} {names : List String}

theorem join_concat (separator part : List Char) {parts : List (List Char)} (hne : parts ≠ []) :
    join separator (parts ++ [part]) = join separator parts ++ separator ++ part := by
  induction parts with
  | nil => exact absurd rfl hne
  | cons first parts ih =>
    cases parts with
    | nil => rfl
    | cons next parts =>
      have htail := ih (List.cons_ne_nil next parts)
      simp only [List.cons_append, join_cons_cons] at htail ⊢
      rw [htail]
      simp

/-! ## Reading -/

/-- A glob needs a star ahead. -/
theorem scanGlob_of_star_notMem {cs : List Char} (h : '*' ∉ cs) : scanGlob cs = 0 := by
  have hline : (cs.takeWhile (· != '\n')).contains '*' = false := by
    rw [List.contains_eq_mem, decide_eq_false_iff_not]
    intro hmem
    exact h ((List.takeWhile_sublist _).subset hmem)
  simp only [scanGlob, hline, Bool.false_and, Bool.false_eq_true, if_false]

/-- The characters of a row of bare names are those of bare names, and dots. -/
theorem ne_of_mem_wordPath (h : ∀ name ∈ names, IsBareName name) {c d : Char}
    (hc : c ∈ (wordPath names).toList) (hbare : isBareChar d = false) (hdot : d ≠ '.') : c ≠ d := by
  rw [wordPath, String.toList_ofList] at hc
  rcases mem_join hc with rfl | ⟨part, hpart, hc⟩
  · exact hdot.symm
  · obtain ⟨name, hname, rfl⟩ := List.mem_map.mp hpart
    exact ne_of_holds ((h name hname).2 c hc) hbare

theorem isWord_dollar : isWord '$' = false := isWord_eq_of_lt (by decide)

/-- A row of names has no marker of the root in front. -/
theorem stripRoot_joined {n : WrittenName} (hn : n.Fits isWord) (rest : List Char) :
    stripRoot (n.text ++ rest) = n.text ++ rest := by
  obtain ⟨c, cs, hcons, hc⟩ := hn.exists_cons
  have hdot : c ≠ '.' := ne_of_quote_or hc (by decide) isWord_dot
  have hdollar : c ≠ '$' := ne_of_quote_or hc (by decide) isWord_dollar
  rw [hcons, List.cons_append]
  simp [stripRoot, hdot, hdollar]

/-- A row of names with no glob in front of it is one step along these names, if the scanners and
the rule for names read it alike. -/
theorem parse_joined {n : WrittenName} {others : List WrittenName}
    (hscanned : ∀ m ∈ n :: others, m.Fits isNameChar) (hruled : ∀ m ∈ n :: others, m.Fits isWord)
    (hglob : scanGlob (n.text ++ dotted others) = 0) :
    parse (String.ofList (n.text ++ dotted others)) =
      [.plain ((n :: others).map fun m => String.ofList m.name)] := by
  rw [List.forall_mem_cons] at hscanned hruled
  have hscan : scanNames (n.text ++ dotted others) = (n.text ++ dotted others).length := by
    have hall := scanNames_joined hscanned.1 hscanned.2 (ends_nil isNameChar)
      (by simp [scanMoreNames])
    simpa using hall
  have hsplit : splitFrom (n.text ++ dotted others) = [n.text ++ dotted others] := by
    have hpos : (n.text ++ dotted others).length ≠ 0 := by
      simp [hscanned.1.text_ne_nil]
    rw [splitFrom_of_names hglob (by rw [hscan]; exact hpos), hscan, List.take_length,
      List.drop_length, splitFrom]
  rw [parse_ofList, stripRoot_joined hruled.1, hsplit, List.map_singleton,
    segmentOf_joined hruled.1 hruled.2]

/-- Bare names with dots between them are one step along these names. -/
theorem parse_wordPath (hne : names ≠ []) (h : ∀ name ∈ names, IsBareName name) :
    parse (wordPath names) = [.plain names] := by
  obtain ⟨first, others, rfl⟩ := List.exists_cons_of_ne_nil hne
  let written : String → WrittenName := fun name => .bare name.toList
  have hvalid : ∀ n ∈ written first :: others.map written, n.Valid := by
    rw [← List.map_cons]
    intro n hn
    obtain ⟨name, hname, rfl⟩ := List.mem_map.mp hn
    exact h name hname
  have htext : (wordPath (first :: others)).toList =
      (written first).text ++ dotted (others.map written) := by
    rw [← join_text, ← List.map_cons, List.map_map]
    exact String.toList_ofList
  have hglob : scanGlob ((written first).text ++ dotted (others.map written)) = 0 := by
    rw [← htext]
    apply scanGlob_of_star_notMem
    intro hmem
    exact ne_of_mem_wordPath h hmem (by decide) (by decide) rfl
  rw [← String.ofList_toList (s := wordPath (first :: others)), htext,
    parse_joined (fun m hm => (hvalid m hm).fits_nameChar) (fun m hm => (hvalid m hm).fits_word)
      hglob]
  simp [written, WrittenName.name, Function.comp_def]

/-! ## Targets -/

/-- A last part without a dot is the key, and the parts before it are the path. -/
theorem splitTarget_join (parts : List (List Char)) {key : List Char} (hdot : '.' ∉ key) :
    splitTarget (String.ofList (join ['.'] (parts ++ [key]))) =
      (String.ofList (join ['.'] parts), .parse key) := by
  by_cases hne : parts = []
  · subst hne
    rw [List.nil_append, splitTarget_of_noDot] <;> simp [join, hdot]
  · have htext : join ['.'] (parts ++ [key]) = join ['.'] parts ++ '.' :: key := by
      rw [join_concat _ _ hne, List.append_assoc, List.singleton_append]
    simp only [splitTarget, String.toList_ofList, htext, cutLast?_append _ hdot]

/-- A key made of word characters is a name. -/
theorem parse_word {key : List Char} (hne : key ≠ []) (hword : ∀ c ∈ key, isWord c = true) :
    Key.parse key = .name (String.ofList key) := by
  have hdollar : key ≠ ['$'] := by
    rintro rfl
    exact ne_of_holds (hword '$' (List.mem_singleton_self _)) isWord_dollar rfl
  rw [Key.parse, if_neg (not_or.mpr ⟨hne, hdollar⟩)]

/-- A target of bare names is the path of all names but the last, and the last one as the key. -/
theorem splitTarget_wordPath (names : List String) (h : IsBareName name) :
    splitTarget (wordPath (names ++ [name])) = (wordPath names, .name name) := by
  have hword : ∀ c ∈ name.toList, isWord c = true := fun c hc => isWord_of_isBareChar (h.2 c hc)
  have hdot : '.' ∉ name.toList := fun hmem => ne_of_holds (hword '.' hmem) isWord_dot rfl
  rw [wordPath, List.map_append, List.map_singleton, splitTarget_join _ hdot,
    parse_word h.1 hword, String.ofList_toList, wordPath]

end DocQuery.Path
