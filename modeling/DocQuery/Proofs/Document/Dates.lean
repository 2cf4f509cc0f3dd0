import Mathlib
import DocQuery.Document.Date
import DocQuery.Proofs.Decimal.RoundTrip
import DocQuery.Text.Classes
import DocQuery.Store.Render

/-!
# Texts That Are Dates

The readers of a date go over digits, white space and signs, and over two hyphens between the
parts.  So a text that is read as a date holds nothing else, and it holds two hyphens at least.  Of
the texts that values are shown as, only those of strings are like this.

## Main definitions

- `Date.isDateChar`: the characters of dates
- `Date.Takes`: a reader has gone over such characters

## Main statements

- `Date.of_read?`: the characters and the hyphens of a date
- `Store.exists_string_of_read?`: only strings are shown as dates
-/

namespace DocQuery

open DocQuery.Text DocQuery.Decimal DocQuery.Json

namespace Date

/-- Digits, white space and signs. -/
def isDateChar (c : Char) : Bool := c.isDigit || isSpace c || c == '-' || c == '+'

/-- What is left of a text when characters of dates have been taken off its front. -/
def Takes (cs rest : List Char) : Prop := ∃ front, cs = front ++ rest ∧ ∀ c ∈ front, isDateChar c

variable {cs ds rest : List Char}

/-! ## The readers -/

theorem Takes.trans (h : Takes cs ds) (h' : Takes ds rest) : Takes cs rest := by
  obtain ⟨front, rfl, hfront⟩ := h
  obtain ⟨more, rfl, hmore⟩ := h'
  exact ⟨front ++ more, by rw [List.append_assoc],
    fun c hc => (List.mem_append.mp hc).elim (hfront c) (hmore c)⟩

theorem takes_cons {c : Char} (hc : isDateChar c = true) (cs : List Char) : Takes (c :: cs) cs :=
  ⟨[c], rfl, by simpa using hc⟩

theorem takes_dropWhile_isSpace (cs : List Char) : Takes cs (cs.dropWhile isSpace) := by
  refine ⟨cs.takeWhile isSpace, List.takeWhile_append_dropWhile.symm, fun c hc => ?_⟩
  have hspace : isSpace c = true := List.mem_takeWhile_imp hc
  simp [isDateChar, hspace]

theorem takes_of_readDigits? {width n : Nat} (h : readDigits? width cs = some (n, rest)) :
    Takes cs rest := by
  have hprefix : (cs.take width).takeWhile Char.isDigit <+: cs :=
    (List.takeWhile_prefix _).trans (List.take_prefix _ _)
  unfold readDigits? at h
  dsimp only at h
  split at h
  · cases h
  · cases h
    refine ⟨_, (List.prefix_iff_eq_append.mp hprefix).symm, fun c hc => ?_⟩
    have hdigit : c.isDigit = true := List.mem_takeWhile_imp hc
    simp [isDateChar, hdigit]

theorem takes_of_readPart? {n : Nat} (h : readPart? cs = some (n, rest)) : Takes cs rest :=
  (takes_dropWhile_isSpace cs).trans (takes_of_readDigits? h)

theorem takes_of_readYear? {year : Int} (h : readYear? cs = some (year, rest)) :
    Takes cs rest := by
  have hdigits : ∀ {width : Nat} {ds : List Char} {f : Nat → Int},
      ((readDigits? width ds).map fun p => (f p.1, p.2)) = some (year, rest) →
        Takes ds rest := by
    intro width ds f hmap
    obtain ⟨⟨n, left⟩, hread, heq⟩ := Option.map_eq_some_iff.mp hmap
    cases heq
    exact takes_of_readDigits? hread
  refine (takes_dropWhile_isSpace cs).trans ?_
  -- with a sign in front, or without one
  unfold readYear? at h
  split at h
  · next more hcs =>
    rw [hcs]
    exact (takes_cons (by decide) more).trans (hdigits (f := fun n => -(n : Int)) h)
  · next more hcs =>
    rw [hcs]
    exact (takes_cons (by decide) more).trans (hdigits (f := Int.ofNat) h)
  · exact hdigits (f := Int.ofNat) h

theorem eq_of_readHyphen? (h : readHyphen? cs = some rest) : cs = '-' :: rest := by
  unfold readHyphen? at h
  split at h
  · cases h
    rfl
  · cases h

/-! ## Whole dates -/

/-- The parts of a date are taken off one after the other, with a hyphen behind each of the first
two. -/
theorem takes_of_readIn? {order : Order} {d : Date} (h : readIn? order cs = some d) :
    ∃ behind last, Takes cs ('-' :: behind) ∧ Takes behind ('-' :: last) ∧ Takes last [] := by
  cases order with
  | yearFirst =>
    simp only [readIn?, Option.bind_eq_bind, Option.bind_eq_some_iff, Prod.exists] at h
    obtain ⟨year, _, hyear, behind, hhyphen, month, _, hmonth, last, hhyphen', day, left, hday,
      hend⟩ := h
    obtain rfl := eq_of_readHyphen? hhyphen
    obtain rfl := eq_of_readHyphen? hhyphen'
    split at hend
    · next hleft =>
      exact ⟨behind, last, takes_of_readYear? hyear, takes_of_readPart? hmonth,
        hleft ▸ takes_of_readPart? hday⟩
    · cases hend
  | dayFirst =>
    simp only [readIn?, Option.bind_eq_bind, Option.bind_eq_some_iff, Prod.exists] at h
    obtain ⟨day, _, hday, behind, hhyphen, month, _, hmonth, last, hhyphen', year, left, hyear,
      hend⟩ := h
    obtain rfl := eq_of_readHyphen? hhyphen
    obtain rfl := eq_of_readHyphen? hhyphen'
    split at hend
    · next hleft =>
      exact ⟨behind, last, takes_of_readPart? hday, takes_of_readPart? hmonth,
        hleft ▸ takes_of_readYear? hyear⟩
    · cases hend

/-- A text that is read as a date holds only digits, white space and signs, and two hyphens. -/
theorem of_read? {text : String} {d : Date} (h : read? text = some d) :
    (∀ c ∈ text.toList, isDateChar c = true) ∧ 2 ≤ text.toList.count '-' := by
  obtain ⟨order, -, hread⟩ := Option.bind_eq_some_iff.mp h
  obtain ⟨_, _, ⟨first, htext, hfirst⟩, ⟨middle, rfl, hmiddle⟩, last, rfl, hlast⟩ :=
    takes_of_readIn? hread
  have hhyphen : isDateChar '-' = true := by decide
  rw [htext]
  constructor
  · intro c hc
    simp only [List.mem_append, List.mem_cons, List.append_nil] at hc
    rcases hc with hc | rfl | hc | rfl | hc
    · exact hfirst c hc
    · exact hhyphen
    · exact hmiddle c hc
    · exact hhyphen
    · exact hlast c hc
  · simp only [List.count_append, List.count_cons_self]
    omega

end Date

/-! ## What values are shown as -/

/-- Digits and a point are no hyphens. -/
theorem count_hyphen_of_digits {cs : List Char} (h : ∀ c ∈ cs, c = '.' ∨ c.isDigit = true) :
    cs.count '-' = 0 := by
  apply List.count_eq_zero_of_not_mem
  intro hmem
  rcases h '-' hmem with h | h <;> exact absurd h (by decide)

theorem count_hyphen_intText (n : Int) : (intText n).count '-' ≤ 1 := by
  have hdigits : (natText n.natAbs).count '-' = 0 :=
    count_hyphen_of_digits fun c hc => .inr (isDigit_of_mem_natText hc)
  rcases intText_eq n with h | h <;> simp [h, hdigits]

/-- A number in positional notation has no hyphen but its sign. -/
theorem count_hyphen_positional (x : Float) : (Layout.positional.text x).count '-' ≤ 1 := by
  have hmagnitude : ∀ m, (Layout.positional.magnitudeText m).count '-' = 0 := by
    intro m
    unfold Layout.magnitudeText
    split
    · decide
    · obtain ⟨whole, fraction, htext, hfixed, -⟩ :=
        exists_positionalText (shortest Layout.positional.tie m)
      have hpositional : Layout.positional.decimalText (shortest Layout.positional.tie m) =
          fixedText whole fraction := htext
      rw [hpositional]
      exact count_hyphen_of_digits fun c hc => mem_fixedText hfixed hc
  rw [Layout.text]
  cases Float64.view x with
  | nan => decide
  | infinite negative => cases negative <;> decide
  | finite negative m => cases negative <;> simp [Layout.viewText, hmagnitude m]

namespace Store

variable {s : Store} {v : Value} {d : Date}

/-- Containers are shown in brackets, or as absent. -/
theorem exists_printFrom_container (h : Handle) :
    ∃ c rest, s.printFrom .canonical .compact [] 0 (.container h) = c :: rest ∧
      (c = '[' ∨ c = '\x7b' ∨ c = 'n') := by
  have hblock : ∀ first last parts, ∃ rest,
      Style.compact.block 0 first last parts = first :: rest := by
    intro first last parts
    unfold Style.block
    split <;> exact ⟨_, rfl⟩
  rw [printFrom]
  split
  · split
    · next items hcell =>
      obtain ⟨rest, hrest⟩ := hblock '[' ']' (items.map (s.printFrom .canonical .compact [h] 1))
      exact ⟨'[', rest, hrest, .inl rfl⟩
    · next members hcell =>
      obtain ⟨rest, hrest⟩ := hblock '\x7b' '\x7d' (members.map fun m =>
        Spelling.canonical.string m.1 ++ Style.compact.colon ++
          s.printFrom .canonical .compact [h] 1 m.2)
      exact ⟨'\x7b', rest, hrest, .inr (.inl rfl)⟩
  · exact ⟨'n', _, rfl, .inr (.inr rfl)⟩

/-- What is no string is shown with one hyphen at most, or with a character that no date has. -/
theorem printFrom_not_date (hv : v.string? = none) :
    (s.printFrom .canonical .compact [] 0 v).count '-' ≤ 1 ∨
      ∃ c ∈ s.printFrom .canonical .compact [] 0 v, Date.isDateChar c = false := by
  cases v with
  | string text => cases hv
  | null =>
    rw [printFrom]
    exact .inr ⟨'n', List.mem_cons_self, by decide⟩
  | bool b =>
    rw [printFrom]
    cases b with
    | true => exact .inr ⟨'t', List.mem_cons_self, by decide⟩
    | false => exact .inr ⟨'f', List.mem_cons_self, by decide⟩
  | integer n =>
    rw [printFrom]
    exact .inl (count_hyphen_intText n.toInt)
  | float x =>
    rw [printFrom, Spelling.number]
    split
    · exact .inl (count_hyphen_positional x)
    · exact .inr ⟨'n', List.mem_cons_self, by decide⟩
  | container g =>
    obtain ⟨c, rest, hprint, hfirst⟩ := exists_printFrom_container (s := s) g
    rw [hprint]
    refine .inr ⟨c, List.mem_cons_self, ?_⟩
    rcases hfirst with rfl | rfl | rfl <;> decide

theorem toList_display (hv : v.string? = none) :
    (s.display v).toList = s.printFrom .canonical .compact [] 0 v := by
  cases v with
  | string text => cases hv
  | _ => exact String.toList_ofList

/-- Only a string is shown as a date. -/
theorem exists_string_of_read? (h : Date.read? (s.display v) = some d) :
    ∃ text, v = .string text := by
  obtain ⟨hchars, hcount⟩ := Date.of_read? h
  cases hv : v.string? with
  | some text =>
    cases v with
    | string t => exact ⟨t, rfl⟩
    | _ => cases hv
  | none =>
    -- a number has too few hyphens, and anything else a character that is foreign to dates
    exfalso
    rw [toList_display hv] at hchars hcount
    rcases printFrom_not_date (s := s) hv with hfew | ⟨c, hc, hforeign⟩
    · omega
    · rw [hchars c hc] at hforeign
      cases hforeign

end Store

end DocQuery
